import Mathlib
import Tiered.Proofs.Json.RoundTrip

/-!
# Written — what has a text, and what stands in it

* `writeAt_reread`: a tuple is written like a list and a pair like the character that it stands for,
  at every depth; so what comes back is written alike, unless two keys became one.
* `exists_writeAt_iff`: a serializable value has a text exactly when its whole numbers do.
* `exists_keyText_iff`: which keys have a text.
* `printed_writeAt`: in a style of ASCII the text of a serializable value holds no other characters,
  and no carriage return, so that a file gives it back as it is.
-/

namespace Tiered.Json
open Number (Layout Magnitude)
open Number.Decimal (isDigit)

/-! ### Tuples and pairs -/

theorem writeItems_congr {style : Style} {depth : Nat} {vs : List Value} {f : Value → Value}
    (h : ∀ v ∈ vs, writeAt style depth (f v) = writeAt style depth v) :
    writeItems style depth (vs.map f) = writeItems style depth vs := by
  induction vs with
  | nil => rfl
  | cons v vs ih =>
      rw [List.map_cons, writeItems, writeItems, h v (by simp), ih fun w hw => h w (by simp [hw])]

/-- The literal of a key does not show which pairs are joined. -/
theorem keyText_joinedKey {style : Style} (hstyle : style.Ascii) (k : Value) :
    (keyText style k.joinedKey).map (Literal.write style.asciiOnly) =
      (keyText style k).map (Literal.write style.asciiOnly) := by
  cases k with
  | text t =>
      rw [Value.joinedKey, keyText, keyText, hstyle.escaped]
      exact congrArg Except.ok (Literal.write_joined t)
  | _ => rfl

theorem writeEntries_congr {style : Style} (hstyle : style.Ascii) {depth : Nat} {es : Entries}
    {f : Value → Value} (h : ∀ e ∈ es, writeAt style depth (f e.2) = writeAt style depth e.2) :
    writeEntries style depth (es.map fun e => (e.1.joinedKey, f e.2)) =
      writeEntries style depth es := by
  induction es with
  | nil => rfl
  | cons e es ih =>
      have hkey := keyText_joinedKey hstyle e.1
      rw [List.map_cons, writeEntries, writeEntries, h e (by simp),
        ih fun f hf => h f (by simp [hf])]
      cases h₁ : keyText style e.1.joinedKey <;> cases h₂ : keyText style e.1 <;>
        simp_all [Except.map, Except.bind]

/-- **What comes back of a value is written like the value**, unless two keys became one. -/
theorem writeAt_reread {style : Style} (hstyle : style.Ascii) (depth : Nat) {v : Value}
    (hv : v.KeysApart) : writeAt style depth v.reread = writeAt style depth v := by
  induction v using Value.nested generalizing depth with
  | text t =>
      rw [Value.reread, writeAt, writeAt, hstyle.escaped, Literal.write_joined]
  | list items ih | tuple items ih =>
      simp only [Value.KeysApart, Value.keysApartItems_iff] at hv
      simp only [Value.reread_list, Value.reread_tuple, writeAt]
      rw [writeItems_congr fun v hmem => ih v hmem (depth + 1) (hv v hmem)]
  | table entries ih =>
      rw [Value.KeysApart, Value.keysApartEntries_iff] at hv
      rw [Value.reread_table, Entries.reread_of_keysApart hv.1, writeAt, writeAt,
        writeEntries_congr hstyle fun e he => (ih e he).2 (depth + 1) (hv.2 e he)]
  | _ => rfl

/-! ### What has a text -/

theorem exists_forall₂_iff {α β : Type} {R : α → β → Prop} {as : List α} :
    (∃ bs, List.Forall₂ R as bs) ↔ ∀ a ∈ as, ∃ b, R a b := by
  induction as with
  | nil => simp
  | cons a as ih =>
      rw [List.forall_mem_cons, ← ih]
      constructor
      · rintro ⟨_, h⟩
        cases h with
        | cons hb hbs => exact ⟨⟨_, hb⟩, _, hbs⟩
      · rintro ⟨⟨b, hb⟩, bs, hbs⟩
        exact ⟨_, .cons hb hbs⟩

theorem writeAt_int (style : Style) (depth : Nat) (n : Int) :
    writeAt style depth (.int n) = intText n := by rw [writeAt]

theorem exists_intText_iff {n : Int} : (∃ cs, intText n = .ok cs) ↔
    (Number.Decimal.digits n.natAbs).length ≤ Number.Decimal.maxDigits := by
  simp only [intText_eq_ok_iff]
  exact ⟨fun ⟨_, h, _⟩ => h, fun h => ⟨_, h, rfl⟩⟩

theorem exists_writeItems_iff {style : Style} {depth : Nat} {vs : List Value} :
    (∃ ps, writeItems style depth vs = .ok ps) ↔
      ∀ v ∈ vs, ∃ p, writeAt style depth v = .ok p := by
  simp only [writeItems_eq_ok_iff, exists_forall₂_iff]

/-- Entries are written when their keys have texts and their values are written. -/
theorem exists_writeEntries_iff {style : Style} {depth : Nat} {es : Entries} :
    (∃ ps, writeEntries style depth es = .ok ps) ↔
      ∀ e ∈ es, (∃ key, keyText style e.1 = .ok key) ∧ ∃ p, writeAt style depth e.2 = .ok p := by
  simp only [writeEntries_eq_ok_iff, exists_forall₂_iff]
  refine forall₂_congr fun e _ => ?_
  constructor
  · rintro ⟨_, key, p, hkey, hp, -⟩
    exact ⟨⟨key, hkey⟩, p, hp⟩
  · rintro ⟨⟨key, hkey⟩, p, hp⟩
    exact ⟨_, key, p, hkey, hp, rfl⟩

theorem exists_map_iff {ε α β : Type} {f : α → β} {x : Except ε α} :
    (∃ b, x.map f = .ok b) ↔ ∃ a, x = .ok a := by
  simp [map_eq_ok_iff]

/-- **A serializable value has a text exactly when each of its whole numbers does.** -/
theorem exists_writeAt_iff {style : Style} {v : Value} (hv : v.serializable = true) {depth : Nat} :
    (∃ p, writeAt style depth v = .ok p) ↔ v.Spellable := by
  induction v using Value.nested generalizing depth with
  | none | bool _ | text _ => exact ⟨fun _ => trivial, fun _ => ⟨_, rfl⟩⟩
  | int n =>
      simp only [writeAt_int]
      exact exists_intText_iff
  | float x =>
      refine ⟨fun _ => trivial, fun _ => ⟨numberLayout.text x, ?_⟩⟩
      have hfinite : x.isFinite = true := hv
      rw [writeAt, floatText, if_pos (by simp [hfinite])]
  | list items ih | tuple items ih =>
      simp only [Value.serializable_list, Value.serializable_tuple, List.all_eq_true] at hv
      simp only [writeAt, exists_map_iff, exists_writeItems_iff, Value.Spellable,
        Value.spellableItems_iff]
      exact forall₂_congr fun v hmem => ih v hmem (hv v hmem)
  | table entries ih =>
      simp only [Value.serializable_table, List.all_eq_true, Bool.and_eq_true] at hv
      simp only [writeAt, exists_map_iff, exists_writeEntries_iff, Value.Spellable,
        Value.spellableEntries_iff]
      refine forall₂_congr fun e he => ?_
      obtain ⟨t, ht⟩ := Value.isSome_text?_iff.1 (hv e he).1
      have hkey : ∃ key, keyText style e.1 = .ok key := ⟨t, by rw [ht, keyText]⟩
      rw [and_iff_right hkey]
      exact (ih e he).2 (hv e he).2
  | octets _ | set _ _ | foreign _ | notFound => simp [Value.serializable] at hv

/-- The keys that JSON without infinities has texts for: texts, nothing, truth values, whole numbers
that are not too long, and finite numbers. -/
def Keyable : Value → Prop
  | .text _ | .none | .bool _ => True
  | .int n => (Number.Decimal.digits n.natAbs).length ≤ Number.Decimal.maxDigits
  | .float x => x.isFinite = true
  | _ => False

/-- **A key has a text in a style of finite numbers exactly when it is one of these.** -/
theorem exists_keyText_iff {style : Style} (hstyle : style.nonFinite = false) {k : Value} :
    (∃ key, keyText style k = .ok key) ↔ Keyable k := by
  cases k with
  | text _ | none | bool _ => exact ⟨fun _ => trivial, fun _ => ⟨_, rfl⟩⟩
  | int n =>
      have hkey : keyText style (.int n) = (intText n).map .ofChars := by rw [keyText]
      rw [hkey, exists_map_iff, exists_intText_iff, Keyable]
  | float x =>
      have hkey : keyText style (.float x) = (floatText style x).map .ofChars := by rw [keyText]
      rw [hkey, exists_map_iff, floatText, hstyle, Bool.false_or, Keyable]
      cases x.isFinite <;> simp
  | octets _ | list _ | tuple _ | set _ | table _ | foreign _ | notFound =>
      simp [keyText, Keyable]

/-! ### What stands in a text -/

/-- A character of ASCII that is no carriage return. -/
def Printed (c : Char) : Prop := c.toNat < 0x80 ∧ c ≠ '\r'

instance (c : Char) : Decidable (Printed c) := inferInstanceAs (Decidable (_ ∧ _))

theorem printed_of_isDigit {c : Char} (h : isDigit c = true) : Printed c := by
  simp only [isDigit, Bool.and_eq_true, decide_eq_true_eq, Char.le_def] at h
  constructor
  · exact Nat.lt_of_le_of_lt (UInt32.le_iff_toNat_le.1 h.2) (by decide)
  · rintro rfl
    exact absurd h.1 (by decide)

theorem printed_digits (n : Nat) : ∀ c ∈ Number.Decimal.digits n, Printed c := fun _ hc =>
  printed_of_isDigit (Number.Decimal.isDigit_of_mem_digits hc)

theorem printed_replicate {c : Char} (h : Printed c) (k : Nat) :
    ∀ d ∈ List.replicate k c, Printed d := fun _ hd => (List.eq_of_mem_replicate hd).symm ▸ h

theorem printed_signed (negative : Bool) {text : List Char} (h : ∀ c ∈ text, Printed c) :
    ∀ c ∈ Layout.signed negative text, Printed c := by
  cases negative with
  | true =>
      rw [Layout.signed, if_pos rfl, List.forall_mem_cons]
      exact ⟨by decide, h⟩
  | false => exact h

theorem printed_decimal (layout : Layout) (d : Number.DecimalFraction) :
    ∀ c ∈ layout.decimal d, Printed c := by
  have hds := printed_digits d.coefficient
  have htake (k : Nat) : ∀ c ∈ (Number.Decimal.digits d.coefficient).take k, Printed c :=
    fun c hc => hds c (List.mem_of_mem_take hc)
  have hdrop (k : Nat) : ∀ c ∈ (Number.Decimal.digits d.coefficient).drop k, Printed c :=
    fun c hc => hds c (List.mem_of_mem_drop hc)
  have hzeros (k : Nat) := printed_replicate (c := '0') (by decide) k
  simp only [Layout.decimal]
  split_ifs
  · simp [Printed]
  · rw [Layout.positional]
    split_ifs
    all_goals simp only [List.forall_mem_cons, List.forall_mem_append]
    -- the point before the digits, behind them, and among them
    · exact ⟨⟨by decide, by decide, hzeros _⟩, hds⟩
    · exact ⟨⟨hds, hzeros _⟩, by decide, by decide, by simp⟩
    · exact ⟨htake _, by decide, hdrop _⟩
  · rw [Layout.scientific]
    simp only [List.forall_mem_cons, List.forall_mem_append]
    refine ⟨⟨htake _, ?_⟩, by decide, ?_, hzeros _, printed_digits _⟩
    · split_ifs
      · simp
      · exact List.forall_mem_cons.2 ⟨by decide, hdrop _⟩
    · split_ifs <;> decide

theorem printed_hex (w n : Nat) : ∀ c ∈ Text.Hex.digits w n, Printed c := by
  have hdigit : ∀ m : Fin 16, Printed (Text.Hex.digit m.val) := by decide
  induction w generalizing n with
  | zero => simp [Text.Hex.digits]
  | succ w ih =>
      simp only [Text.Hex.digits, List.forall_mem_append, List.forall_mem_singleton]
      exact ⟨ih _, hdigit ⟨n % 16, Nat.mod_lt n (by decide)⟩⟩

theorem printed_numeric (n : Nat) : ∀ c ∈ Literal.numeric n, Printed c := by
  simp only [Literal.numeric, List.forall_mem_cons]
  exact ⟨by decide, by decide, printed_hex 4 _⟩

theorem printed_letter {c l : Char} (h : Literal.letter? c = some l) : Printed l := by
  simp only [Literal.letter?] at h
  split_ifs at h with h₁
  · rcases h₁ with rfl | rfl
    all_goals
      obtain rfl := Option.some.inj h
      decide
  all_goals
    obtain rfl := Option.some.inj h
    decide

theorem printed_escapeCode (u : Code) : ∀ c ∈ Literal.escapeCode u, Printed c := by
  simp only [Literal.escapeCode]
  cases hl : Literal.letter? (Char.ofNat u.val) with
  | some l =>
      simp only [List.forall_mem_cons]
      exact ⟨by decide, printed_letter hl, by simp⟩
  | none =>
      dsimp only
      split_ifs with hp
      · simp only [Bool.and_eq_true, decide_eq_true_eq] at hp
        have hn : (Char.ofNat u.val).toNat = u.val := by
          rw [Char.toNat_ofNat, if_pos (Or.inl (by omega))]
        rw [List.forall_mem_singleton]
        refine ⟨by omega, fun hr => ?_⟩
        -- a carriage return is below the characters that stand for themselves
        rw [hr] at hn
        have : '\r'.toNat = 13 := rfl
        omega
      · exact printed_numeric u
      · exact List.forall_mem_append.2 ⟨printed_numeric _, printed_numeric _⟩

theorem printed_literal (t : Text) : ∀ c ∈ Literal.write true t, Printed c := by
  simp only [Literal.write, if_true, List.forall_mem_cons, List.forall_mem_append]
  refine ⟨⟨by decide, fun c hc => ?_⟩, by decide, by simp⟩
  obtain ⟨u, -, hu⟩ := List.mem_flatMap.1 hc
  exact printed_escapeCode u c hu

theorem printed_lineBreak (style : Style) (depth : Nat) :
    ∀ c ∈ style.lineBreak depth, Printed c := by
  rw [Style.lineBreak]
  cases style.indent with
  | none => simp
  | some width =>
      exact List.forall_mem_cons.2 ⟨by decide, printed_replicate (by decide) _⟩

theorem printed_of_blank {gap : List Char} (h : ∀ c ∈ gap, c = ' ') : ∀ c ∈ gap, Printed c := by
  intro c hc
  rw [h c hc]
  decide

theorem printed_separate {style : Style} (hstyle : style.Blank) (depth : Nat)
    {ps : List (List Char)} (h : ∀ p ∈ ps, ∀ c ∈ p, Printed c) :
    ∀ c ∈ separate style depth ps, Printed c := by
  induction ps with
  | nil => simp [separate]
  | cons p ps ih =>
      rw [List.forall_mem_cons] at h
      cases ps with
      | nil => exact h.1
      | cons q ps =>
          simp only [separate_cons_cons, List.forall_mem_append, List.forall_mem_cons]
          exact ⟨⟨⟨h.1, by decide, printed_of_blank hstyle.comma⟩, printed_lineBreak style depth⟩,
            ih h.2⟩

theorem printed_bracketed {style : Style} (hstyle : style.Blank) (depth : Nat)
    {opening closing : Char} (ho : Printed opening) (hc : Printed closing)
    {ps : List (List Char)} (h : ∀ p ∈ ps, ∀ c ∈ p, Printed c) :
    ∀ c ∈ bracketed style depth opening closing ps, Printed c := by
  rw [bracketed]
  split_ifs
  · simp [ho, hc]
  · simp only [List.forall_mem_cons, List.forall_mem_append]
    exact ⟨⟨⟨⟨ho, printed_lineBreak style _⟩, printed_separate hstyle _ h⟩,
      printed_lineBreak style _⟩, hc, by simp⟩

theorem forall_of_forall₂ {α β : Type} {R : α → β → Prop} {P : β → Prop} {as : List α}
    {bs : List β} (h : List.Forall₂ R as bs) (hP : ∀ a ∈ as, ∀ b, R a b → P b) :
    ∀ b ∈ bs, P b := by
  induction h with
  | nil => simp
  | cons hab _ ih =>
      rw [List.forall_mem_cons] at hP ⊢
      exact ⟨hP.1 _ hab, ih hP.2⟩

/-- A table is printed in ASCII if its values are. -/
theorem printed_table {style : Style} (hstyle : style.Blank) (hascii : style.asciiOnly = true)
    {es : Entries} {depth : Nat}
    (hes : ∀ e ∈ es, ∀ p, writeAt style (depth + 1) e.2 = .ok p → ∀ c ∈ p, Printed c)
    {p : List Char} (h : writeAt style depth (.table es) = .ok p) : ∀ c ∈ p, Printed c := by
  obtain ⟨ps, hps, rfl⟩ := map_eq_ok_iff.1 h
  refine printed_bracketed hstyle depth (by decide) (by decide)
    (forall_of_forall₂ (writeEntries_eq_ok_iff.1 hps) fun e he p hp => ?_)
  obtain ⟨key, q, -, hq, rfl⟩ := hp
  rw [hascii]
  simp only [List.forall_mem_append, List.forall_mem_cons]
  exact ⟨⟨printed_literal key, by decide, printed_of_blank hstyle.colon⟩, hes e he q hq⟩

/-- **In a style of ASCII the text of a serializable value is printed in ASCII**, without carriage
returns. -/
theorem printed_writeAt {style : Style} (hstyle : style.Blank) (hascii : style.asciiOnly = true)
    {v : Value} (hv : v.serializable = true) {depth : Nat} {p : List Char}
    (h : writeAt style depth v = .ok p) : ∀ c ∈ p, Printed c := by
  induction v using Value.nested generalizing depth p with
  | none =>
      obtain rfl := Except.ok.inj h
      simp [Printed]
  | bool b =>
      obtain rfl := Except.ok.inj h
      cases b <;> simp [Printed]
  | int n =>
      rw [writeAt_int] at h
      obtain ⟨-, rfl⟩ := intText_eq_ok_iff.1 h
      exact printed_signed _ (printed_digits _)
  | float x =>
      obtain ⟨negative, m, rfl⟩ := Number.Double.isFinite_iff.1 hv
      rw [writeAt, floatText, if_pos (by simp [Number.Double.isFinite])] at h
      obtain rfl := Except.ok.inj h
      exact printed_signed negative (printed_decimal numberLayout m.shortest)
  | text t =>
      obtain rfl := Except.ok.inj h
      rw [hascii]
      exact printed_literal t
  | list items ih | tuple items ih =>
      simp only [Value.serializable_list, Value.serializable_tuple, List.all_eq_true] at hv
      obtain ⟨ps, hps, rfl⟩ := map_eq_ok_iff.1 h
      refine printed_bracketed hstyle depth (by decide) (by decide)
        (forall_of_forall₂ (writeItems_eq_ok_iff.1 hps) fun v hmem p hp => ?_)
      exact ih v hmem (hv v hmem) hp
  | table entries ih =>
      simp only [Value.serializable_table, List.all_eq_true, Bool.and_eq_true] at hv
      exact printed_table hstyle hascii
        (fun e he p hp => (ih e he).2 (hv e he).2 hp) h
  | octets _ | set _ _ | foreign _ | notFound => simp [Value.serializable] at hv

end Tiered.Json
