import Mathlib
import Tiered.Proofs.Files.Write
import Tiered.Proofs.Value.Reread
import Tiered.Session.Basic

/-!
# Use — what is done with a session, and what becomes of a key

A session is used step by step, and a use that fails is followed by the next one, too
(`Scene.used`); its history says which uses worked (`Scene.history`).  From a history follows what
became of the values that were set under a key: a value is fresh until it is filed by a save or a
closing, or discarded by opening the session anew (`Mark`).  As long as no value is discarded, the
last one that is left is the last one that was set (`last_of_undiscarded`).
-/

namespace Tiered

/-- What is done with a session: it is opened, written, read, rendered from and saved, and it is
closed, by itself or with an error on its way. -/
inductive Use where
  | enter
  | set (key : Text) (v : Value)
  | get (key : Text) (absent : Value)
  | render (v : Value) (strict : Bool)
  | save
  | close
  | exit (failing : Bool)

namespace Use

/-- What a use does to a session. -/
def run : Use → Action Scene Unit
  | enter => Scene.enter
  | set key v => Scene.resolving (Resolver.set (.text key) v)
  | get key absent => do
    let _ ← Scene.resolving (Resolver.get (.text key) absent)
    return ()
  | render v strict => do
    let _ ← Scene.render v strict
    return ()
  | save => Scene.saveOnly
  | close => Scene.close
  | exit failing => Scene.exit failing

/-- The use saves, or closes. -/
def Saves : Use → Prop
  | save | close | exit _ => True
  | _ => False

/-- What the use writes is regular. -/
def Regular : Use → Prop
  | set _ v => v.Regular
  | _ => True

/-- The use sets no other key that is read back as the key. -/
def Spares (key : Text) : Use → Prop
  | set k _ => k.joined = key → k = key
  | _ => True

/-- The value that was set under a key by a use, if it worked. -/
def setUnder? (key : Text) : Use × Bool → Option Value
  | (set k v, true) => if k = key then some v else none
  | _ => none

end Use

namespace Scene

/-- The scene that a row of uses leaves. -/
def used (s : Scene) : List Use → Scene
  | [] => s
  | u :: us => used (u.run s).state us

/-- The uses in a row, each with whether it worked. -/
def history (s : Scene) : List Use → List (Use × Bool)
  | [] => []
  | u :: us => (u, (u.run s).result.isOk) :: history (u.run s).state us

/-- Whenever one of the uses saves or closes the open session, the disk admits its snapshot. -/
def Works (s : Scene) : List Use → Prop
  | [] => True
  | u :: us => (u.Saves → s.session.isOpen = true → s.disk.Admits s.session.snapshotPath) ∧
      Works (u.run s).state us

end Scene

/-! ### What becomes of a key -/

/-- The last value that was set under a key, in a history. -/
def lastSet (key : Text) (history : List (Use × Bool)) : Option Value :=
  (history.filterMap (Use.setUnder? key)).getLast?

/-- What became of the values that were set under a key: the last one that was neither filed nor
discarded yet, and the last one that was filed. -/
structure Mark where
  fresh : Option Value
  filed : Option Value

namespace Mark

/-- No value was set. -/
def blank : Mark := ⟨none, none⟩

/-- The last value that was set and not discarded. -/
def last (m : Mark) : Option Value := m.fresh.or m.filed

/-- The mark after a use: a value that is set is fresh, a save or a closing files it, and opening
discards it.  A use that fails leaves the mark. -/
def after (key : Text) (m : Mark) : Use × Bool → Mark
  | (.set k v, true) => if k = key then { m with fresh := some v } else m
  | (.save, true) | (.close, true) | (.exit _, true) => ⟨none, m.last⟩
  | (.enter, true) => { m with fresh := none }
  | _ => m

/-- The mark of a key after a history. -/
def of (key : Text) (history : List (Use × Bool)) : Mark := history.foldl (after key) blank

end Mark

section Undiscarded

variable {key : Text} {history : List (Use × Bool)}

/-- No opening that worked came upon a fresh value of the key. -/
def Undiscarded (key : Text) (history : List (Use × Bool)) : Prop :=
  ∀ before later, history = before ++ (.enter, true) :: later → (Mark.of key before).fresh = none

theorem lastSet_concat (key : Text) (history : List (Use × Bool)) (x : Use × Bool) :
    lastSet key (history ++ [x]) = (Use.setUnder? key x).or (lastSet key history) := by
  simp only [lastSet, List.filterMap_append, List.getLast?_append, List.filterMap_cons,
    List.filterMap_nil]
  cases Use.setUnder? key x <;> rfl

theorem Undiscarded.of_concat {x : Use × Bool} (h : Undiscarded key (history ++ [x])) :
    Undiscarded key history := by
  rintro before later rfl
  exact h before (later ++ [x]) (by simp)

/-- **Where no value of a key was discarded, the last one that is left is the last one that was
set.** -/
theorem last_of_undiscarded (h : Undiscarded key history) :
    (Mark.of key history).last = lastSet key history := by
  induction history using List.reverseRecOn with
  | nil => rfl
  | append_singleton history x ih =>
      have ih := ih h.of_concat
      rw [lastSet_concat, ← ih, Mark.of, List.foldl_append, ← Mark.of]
      obtain ⟨u, worked⟩ := x
      cases worked with
      | false => cases u <;> rfl
      | true =>
          cases u with
          | enter =>
              have hfresh : (Mark.of key history).fresh = none := h history [] rfl
              simp [Mark.after, Mark.last, Use.setUnder?, hfresh]
          | set k v => by_cases hk : k = key <;> simp [Mark.after, Mark.last, Use.setUnder?, hk]
          | get k absent | render v strict => rfl
          | save | close | exit failing => simp [Mark.after, Mark.last, Use.setUnder?]

end Undiscarded

end Tiered
