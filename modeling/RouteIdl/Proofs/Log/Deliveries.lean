import Mathlib.Data.List.Forall2
import Mathlib.Data.List.Induction
import RouteIdl.Log.Manager

/-!
# What a listener receives

Whether a message reaches the listener is told by the commands before it: the last that attaches or
detaches the listener, and the last that sets the threshold. The higher the thresholds of a run, the
fewer of its messages are received.
-/

namespace RouteIdl.Log

/-! ## Due messages -/

/-- Whether a command attaches the listener or detaches it, if it does either. -/
def Command.attaches? : Command → Option Bool
  | .attach => some true
  | .detach => some false
  | _ => none

/-- The threshold that a command sets. -/
def Command.sets? : Command → Option Level
  | .setThreshold level => some level
  | _ => none

/-- Whether a listener is attached after commands to a fresh manager. -/
def listening (before : List Command) : Bool :=
  (before.reverse.findSome? Command.attaches?).getD false

/-- The threshold that was set last, or info if none was. -/
def lastThreshold (before : List Command) : Level :=
  (before.reverse.findSome? Command.sets?).getD .info

/-- The message of a command after others, if it is one that the listener has to receive. -/
def Command.due? (before : List Command) : Command → Option Delivery
  | .log delivery =>
      if listening before ∧ delivery.level ≠ .off ∧ lastThreshold before ≤ delivery.level then
        some delivery
      else none
  | _ => none

/-- The messages of commands that the listener has to receive, in order. -/
def due (commands : List Command) : List Delivery :=
  commands.zipIdx.filterMap fun entry => entry.1.due? (commands.take entry.2)

section Due

variable (before : List Command) (command : Command)

theorem due_concat : due (before ++ [command]) = due before ++ (command.due? before).toList := by
  have hbefore : ∀ entry ∈ before.zipIdx,
      entry.1.due? ((before ++ [command]).take entry.2) =
        entry.1.due? (before.take entry.2) := by
    intro entry hentry
    have hlt := List.snd_lt_of_mem_zipIdx hentry
    rw [List.take_append_of_le_length (by omega)]
  have hlast : (before ++ [command]).take before.length = before := List.take_left
  rw [due, List.zipIdx_append, List.filterMap_append, List.filterMap_congr hbefore]
  cases hdue : command.due? before <;> simp [due, hlast, hdue]

theorem listening_concat :
    listening (before ++ [command]) = command.attaches?.getD (listening before) := by
  rw [listening, List.reverse_concat, List.findSome?_cons]
  cases command.attaches? <;> rfl

theorem lastThreshold_concat :
    lastThreshold (before ++ [command]) = command.sets?.getD (lastThreshold before) := by
  rw [lastThreshold, List.reverse_concat, List.findSome?_cons]
  cases command.sets? <;> rfl

end Due

namespace Manager

/-! ## Runs -/

/-- The manager after commands. -/
def after (manager : Manager) (commands : List Command) : Manager :=
  commands.foldl (fun manager command => (manager.step command).1) manager

variable {manager other : Manager} {command : Command}

theorem after_concat (commands : List Command) :
    manager.after (commands ++ [command]) = ((manager.after commands).step command).1 :=
  List.foldl_concat _ manager command commands

theorem deliveries_concat (commands : List Command) :
    manager.deliveries (commands ++ [command]) =
      manager.deliveries commands ++ ((manager.after commands).step command).2 := by
  induction commands generalizing manager with
  | nil => exact List.append_nil _
  | cons first rest ih =>
      rw [List.cons_append, deliveries, deliveries, ih, List.append_assoc]
      rfl

theorem step_attached :
    (manager.step command).1.attached = command.attaches?.getD manager.attached := by
  cases command with
  | setThreshold level => exact attached_withThreshold manager level
  | attach => rfl
  | detach => rfl
  | log delivery => rfl

theorem step_threshold :
    (manager.step command).1.threshold = command.sets?.getD manager.threshold := by
  cases command with
  | setThreshold level => exact threshold_withThreshold manager level
  | attach => rfl
  | detach => rfl
  | log delivery => rfl

/-- A step delivers what is due by what is attached and by the threshold. -/
theorem step_deliveries {before : List Command} (hattached : manager.attached = listening before)
    (hthreshold : manager.threshold = lastThreshold before) :
    (manager.step command).2 = (command.due? before).toList := by
  cases command with
  | log delivery =>
      simp only [step, enabled, Level.passes, Command.due?, hattached, hthreshold,
        Bool.and_eq_true, bne_iff_ne, decide_eq_true_eq]
      split <;> rfl
  | attach => rfl
  | detach => rfl
  | setThreshold level => rfl

/-- A manager keeps what the commands so far make of it. -/
theorem after_fresh (commands : List Command) :
    (fresh.after commands).attached = listening commands ∧
      (fresh.after commands).threshold = lastThreshold commands := by
  induction commands using List.reverseRecOn with
  | nil => exact ⟨rfl, rfl⟩
  | append_singleton before command ih =>
      rw [after_concat, step_attached, step_threshold, listening_concat, lastThreshold_concat,
        ih.1, ih.2]
      exact ⟨rfl, rfl⟩

theorem deliveries_fresh (commands : List Command) : fresh.deliveries commands = due commands := by
  induction commands using List.reverseRecOn with
  | nil => rfl
  | append_singleton before command ih =>
      obtain ⟨hattached, hthreshold⟩ := after_fresh before
      rw [deliveries_concat, due_concat, ih, step_deliveries hattached hthreshold]

/-! ## Higher thresholds -/

/-- The same command, but for a threshold that may be higher. -/
inductive RaisedTo : Command → Command → Prop where
  | same (command : Command) : RaisedTo command command
  | raised {low high : Level} (hlevel : low ≤ high) :
      RaisedTo (.setThreshold low) (.setThreshold high)

/-- The same listener, behind a threshold that may be higher. -/
structure Stricter (manager other : Manager) : Prop where
  attached : other.attached = manager.attached
  threshold : manager.threshold ≤ other.threshold

theorem passes_of_passes {low high level : Level} (hlevel : low ≤ high)
    (h : high.passes level) : low.passes level := by
  simp only [Level.passes, Bool.and_eq_true, decide_eq_true_eq] at h ⊢
  exact ⟨h.1, Nat.le_trans hlevel h.2⟩

theorem Stricter.step {command' : Command} (h : Stricter manager other)
    (hcommand : RaisedTo command command') :
    Stricter (manager.step command).1 (other.step command').1 ∧
      (other.step command').2.Sublist (manager.step command).2 := by
  cases hcommand with
  | @raised low high hlevel =>
      refine ⟨⟨h.attached, ?_⟩, .slnil⟩
      simpa [Manager.step] using hlevel
  | same =>
      cases command with
      | log delivery =>
          have henabled : other.enabled delivery.level → manager.enabled delivery.level :=
            passes_of_passes h.threshold
          refine ⟨h, ?_⟩
          simp only [Manager.step, h.attached]
          cases hother : manager.attached && other.enabled delivery.level with
          | false => exact List.nil_sublist _
          | true =>
              obtain ⟨hattached, hlevel⟩ := Bool.and_eq_true_iff.mp hother
              rw [hattached, henabled hlevel]
              exact .refl _
      | attach => exact ⟨⟨rfl, h.threshold⟩, .slnil⟩
      | detach => exact ⟨⟨rfl, h.threshold⟩, .slnil⟩
      | setThreshold level =>
          refine ⟨⟨h.attached, ?_⟩, .slnil⟩
          simp only [Manager.step, threshold_withThreshold]
          exact Nat.le_refl _

theorem Stricter.deliveries {commands raised : List Command} (h : Stricter manager other)
    (hcommands : List.Forall₂ RaisedTo commands raised) :
    (other.deliveries raised).Sublist (manager.deliveries commands) := by
  induction hcommands generalizing manager other with
  | nil => exact .slnil
  | cons hfirst _ ih =>
      obtain ⟨hnext, hstep⟩ := h.step hfirst
      exact hstep.append (ih hnext)

/-- A listener receives exactly those messages, unchanged and in order, that are logged while it is
attached, have a level that is not off, and are at least as severe as the threshold that was set
last, which is info to begin with. If the thresholds of a run are raised, it receives no others and
none in another order. -/
theorem deliveries_filtered (commands : List Command) :
    fresh.deliveries commands = due commands ∧
      ∀ raised, List.Forall₂ RaisedTo commands raised →
        (fresh.deliveries raised).Sublist (fresh.deliveries commands) :=
  ⟨deliveries_fresh commands, fun _ hraised =>
    Stricter.deliveries ⟨rfl, Nat.le_refl _⟩ hraised⟩

/-- Messages of several levels behind a threshold, one of them while nobody listens. -/
def watched (level : Level) : List Command :=
  [.setThreshold level, .attach, .log ⟨.info, "routes", "started"⟩, .log ⟨.off, "routes", "idle"⟩,
    .detach, .log ⟨.error, "routes", "lost"⟩, .attach, .log ⟨.warn, "routes", "repeated"⟩]

theorem deliveries_filtered_watched :
    List.Forall₂ RaisedTo (watched .info) (watched .warn) ∧
      fresh.deliveries (watched .info) =
        [⟨.info, "routes", "started"⟩, ⟨.warn, "routes", "repeated"⟩] ∧
      fresh.deliveries (watched .warn) = [⟨.warn, "routes", "repeated"⟩] ∧
      (fresh.deliveries (watched .warn)).Sublist (fresh.deliveries (watched .info)) := by
  have hraised : List.Forall₂ RaisedTo (watched .info) (watched .warn) :=
    .cons (.raised (by decide)) (List.forall₂_same.mpr fun command _ => .same command)
  obtain ⟨hdue, hsublist⟩ := deliveries_filtered (watched .info)
  exact ⟨hraised, hdue.trans (by decide), (deliveries_filtered (watched .warn)).1.trans (by decide),
    hsublist _ hraised⟩

end Manager

end RouteIdl.Log
