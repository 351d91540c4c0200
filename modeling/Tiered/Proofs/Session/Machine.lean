import Mathlib
import Tiered.Proofs.Value.Reread
import Tiered.Session.Workspace

/-!
# Machine — sessions as a machine of tables

Every place holds a table, which is a snapshot.  A session has a desk: its place, its environment,
whether closing saves, its overlay while it is open, and its reset point.  A command takes one
session one step on: it changes that session's desk, and of all snapshots at most the one at the
session's place (`Machine.step`).  What a snapshot becomes is what comes back of what was kept, so
saving it again changes nothing more (`Machine.Settled`).
-/

namespace Tiered

open Files

/-- What can be asked of a session. -/
inductive Command where
  | enter
  | set (key : Text) (v : Value)
  | restore (es : Entries)
  | lookup (key : Text)
  | get (key : Text) (absent : Value)
  | reset
  | save
  | close
  deriving Repr

/-- What a session says to a command. -/
inductive Reply where
  | done
  | found (l : Lookup)
  | value (v : Value)
  | kept (es : Entries)
  deriving Repr

/-- What the machine knows of a session. -/
@[ext]
structure Desk where
  /-- Where its snapshot is. -/
  place : Location
  /-- The environment that it has when it is open. -/
  environment : Entries
  /-- Closing saves. -/
  persists : Bool
  /-- The overlay of an open session. -/
  overlay : Option Entries
  /-- The reset point. -/
  saved : Entries

/-- What a step of a session comes to: its reply, the snapshot at its place, and its desk. -/
structure Turn where
  reply : Except Failure Reply
  snapshot : Entries
  desk : Desk

namespace Desk

/-- What is said about a key: the overlay comes first, and then the environment. -/
def find (desk : Desk) (overlay : Entries) (key : Text) : Except Failure Lookup :=
  (Resolver.nameOf (.text key)).map fun name =>
    match overlay.get? (.text key), desk.environment.get? (.text key) with
    | some v, _ => ⟨name, true, v, .snapshot⟩
    | none, some v => ⟨name, true, v, .environment⟩
    | none, none => ⟨name, false, .none, .none⟩

/-- The desk with another overlay. -/
def overlaid (desk : Desk) (overlay : Entries) : Desk := { desk with overlay := some overlay }

/-- The desk of the session when it is closed. -/
def closed (desk : Desk) : Desk := { desk with overlay := none }

/-- The desk with another reset point. -/
def keeping (desk : Desk) (saved : Entries) : Desk := { desk with saved }

/-- What a command makes of an open session. -/
def turnOpen (desk : Desk) (snapshot overlay : Entries) : Command → Turn
  | .enter => ⟨.ok .done, snapshot, (desk.keeping snapshot).overlaid snapshot⟩
  | .set key v => ⟨.ok .done, snapshot, desk.overlaid (overlay.put (.text key) v)⟩
  | .restore es => ⟨.ok .done, snapshot, desk.overlaid es⟩
  | .lookup key => ⟨(desk.find overlay key).map .found, snapshot, desk⟩
  | .get key absent =>
    ⟨(desk.find overlay key).map fun l => .value (if l.found then l.value else absent), snapshot,
      desk⟩
  | .reset => ⟨.ok .done, snapshot, desk.overlaid desk.saved⟩
  | .save => ⟨.ok (.kept overlay.keep), overlay.keep.reread, desk.keeping overlay.keep⟩
  | .close =>
    if desk.persists then
      ⟨.ok .done, overlay.keep.reread, (desk.keeping overlay.keep).closed⟩
    else ⟨.ok .done, snapshot, desk.closed⟩

/-- What a command makes of a session that is not open. -/
def turnClosed (desk : Desk) (snapshot : Entries) : Command → Turn
  | .enter => ⟨.ok .done, snapshot, (desk.keeping snapshot).overlaid snapshot⟩
  | .close => ⟨.ok .done, snapshot, desk⟩
  | _ => ⟨.error .sessionNotOpen, snapshot, desk⟩

/-- What a command makes of a session whose place holds a snapshot. -/
def turn (desk : Desk) (snapshot : Entries) (c : Command) : Turn :=
  match desk.overlay with
  | some overlay => desk.turnOpen snapshot overlay c
  | none => desk.turnClosed snapshot c

/-- The snapshot of an open session is what comes back of its reset point. -/
def InStep (desk : Desk) (snapshot : Entries) : Prop :=
  desk.overlay ≠ none → snapshot = desk.saved.reread

variable (desk : Desk) (snapshot : Entries)

/-- A session stays at its place. -/
theorem place_turn (c : Command) : (desk.turn snapshot c).desk.place = desk.place := by
  rw [turn]
  cases desk.overlay with
  | none => cases c <;> rfl
  | some overlay =>
      cases c
      case close =>
        dsimp only [turnOpen]
        split_ifs <;> rfl
      all_goals rfl

/-- A snapshot always comes back as it is. -/
theorem reread_turn (hl : snapshot.reread = snapshot) (c : Command) :
    (desk.turn snapshot c).snapshot.reread = (desk.turn snapshot c).snapshot := by
  rw [turn]
  cases desk.overlay with
  | none => cases c <;> exact hl
  | some overlay =>
      cases c
      case save => exact Entries.reread_reread _
      case close =>
        dsimp only [turnOpen]
        split_ifs
        · exact Entries.reread_reread _
        · exact hl
      all_goals exact hl

/-- What a session does keeps its snapshot in step with its reset point. -/
theorem inStep_turn (hl : snapshot.reread = snapshot) (h : desk.InStep snapshot) (c : Command) :
    (desk.turn snapshot c).desk.InStep (desk.turn snapshot c).snapshot := by
  intro ho
  rw [turn] at ho ⊢
  rcases hd : desk.overlay with _ | overlay
  · rw [hd] at ho
    cases c
    case enter => exact hl.symm
    all_goals exact absurd hd ho
  · have hin := h (by simp [hd])
    rw [hd] at ho
    cases c
    case enter => exact hl.symm
    case save => rfl
    -- a session that is closed is not open
    case close =>
      dsimp only [turnOpen] at ho
      split_ifs at ho <;> exact absurd rfl ho
    all_goals exact hin

end Desk

/-- Snapshots at places, and the desks of the sessions by name. -/
@[ext]
structure Machine where
  snapshots : Location → Entries
  desks : String → Option Desk

/-- The replies to commands to sessions, in order, and the state that is left. -/
def replies {σ : Type} (step : σ → String → Command → Except Failure Reply × σ) (s : σ) :
    List (String × Command) → List (Except Failure Reply) × σ
  | [] => ([], s)
  | (name, c) :: cs =>
    let rest := replies step (step s name c).2 cs
    ((step s name c).1 :: rest.1, rest.2)

namespace Machine

/-- What a command to the session with a name comes to. -/
def step (m : Machine) (name : String) (c : Command) : Except Failure Reply × Machine :=
  match m.desks name with
  | none => (.error .sessionNotOpen, m)
  | some desk =>
    let turn := desk.turn (m.snapshots desk.place) c
    (turn.reply, ⟨Function.update m.snapshots desk.place turn.snapshot,
      Function.update m.desks name (some turn.desk)⟩)

/-- What commands to sessions come to. -/
def run (m : Machine) (cs : List (String × Command)) : List (Except Failure Reply) × Machine :=
  replies step m cs

variable {m : Machine} {name : String}

/-- A step changes the desk of its session only. -/
theorem desks_step_of_ne {other : String} (h : other ≠ name) (c : Command) :
    (m.step name c).2.desks other = m.desks other := by
  rw [step]
  split
  · rfl
  · exact Function.update_of_ne h _ _

/-- A step changes the snapshot at its session's place only. -/
theorem snapshots_step_of_ne {place : Location}
    (h : ∀ desk, m.desks name = some desk → desk.place ≠ place) (c : Command) :
    (m.step name c).2.snapshots place = m.snapshots place := by
  rw [step]
  split
  · rfl
  · next desk hd => exact Function.update_of_ne (h desk hd).symm _ _

/-- No other session has the place of the session with a name. -/
def Alone (m : Machine) (name : String) : Prop :=
  ∀ other ≠ name, ∀ desk desk', m.desks name = some desk → m.desks other = some desk' →
    desk'.place ≠ desk.place

/-- The snapshot and the reset point of the session with a name are in step. -/
def InStep (m : Machine) (name : String) : Prop :=
  ∀ desk, m.desks name = some desk → desk.InStep (m.snapshots desk.place)

/-- Every snapshot comes back as it is. -/
def Settled (m : Machine) : Prop := ∀ place, (m.snapshots place).reread = m.snapshots place

theorem Settled.step (h : m.Settled) (name : String) (c : Command) : (m.step name c).2.Settled := by
  intro place
  rw [Machine.step]
  split
  · exact h place
  · next desk _ =>
    dsimp only
    by_cases he : place = desk.place
    · rw [he, Function.update_self]
      exact desk.reread_turn _ (h desk.place) c
    · rw [Function.update_of_ne he]
      exact h place

/-- Every desk after a step stands where one stood before it. -/
theorem exists_desk_of_step {actor other : String} {c : Command} {desk : Desk}
    (h : (m.step actor c).2.desks other = some desk) :
    ∃ before, m.desks other = some before ∧ before.place = desk.place := by
  by_cases hne : other = actor
  · subst hne
    rw [step] at h
    split at h
    · exact ⟨desk, h, rfl⟩
    · next before hd =>
      dsimp only at h
      rw [Function.update_self] at h
      obtain rfl := Option.some.inj h
      exact ⟨before, hd, (before.place_turn _ c).symm⟩
  · exact ⟨desk, (desks_step_of_ne hne c).symm.trans h, rfl⟩

theorem Alone.step (h : m.Alone name) (actor : String) (c : Command) :
    (m.step actor c).2.Alone name := by
  intro other hne desk desk' hd hd'
  obtain ⟨before, hb, hplace⟩ := exists_desk_of_step hd
  obtain ⟨before', hb', hplace'⟩ := exists_desk_of_step hd'
  rw [← hplace, ← hplace']
  exact h other hne before before' hb hb'

theorem InStep.step (h : m.InStep name) (hl : m.Settled) (ha : m.Alone name) (actor : String)
    (c : Command) : (m.step actor c).2.InStep name := by
  intro desk hd
  by_cases hne : name = actor
  · subst hne
    rw [Machine.step] at hd ⊢
    split at hd
    · next hn => exact absurd (hn.symm.trans hd) (by simp)
    · next before hb =>
      dsimp only at hd ⊢
      rw [Function.update_self] at hd
      obtain rfl := Option.some.inj hd
      rw [before.place_turn, Function.update_self]
      exact before.inStep_turn _ (hl before.place) (h before hb) c
  · rw [desks_step_of_ne hne] at hd
    rw [snapshots_step_of_ne fun desk' hd' => ha actor (Ne.symm hne) desk desk' hd hd']
    exact h desk hd

/-- **A session that is alone at its place keeps its snapshot in step with its reset point**, in
every run. -/
theorem InStep.run (h : m.InStep name) (hl : m.Settled) (ha : m.Alone name)
    (cs : List (String × Command)) : (m.run cs).2.InStep name := by
  induction cs generalizing m with
  | nil => exact h
  | cons c cs ih => exact ih (h.step hl ha c.1 c.2) (hl.step c.1 c.2) (ha.step c.1 c.2)

end Machine

end Tiered
