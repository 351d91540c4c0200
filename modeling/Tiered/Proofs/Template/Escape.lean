import Mathlib
import Tiered.Proofs.Template.Containers

/-!
# Escape — writing any text in a template

A text is escaped by a backslash in front of each opener in it, from the left and without overlap.
Cut into pieces it is then taken for nothing but itself, also where a placeholder follows, unless
its end makes an escaped opener of the one that follows (`pieces_escape_append`).  So templates can
be woven of escaped texts and placeholders, and rendering such a template puts the values between
the texts (`render_weave`).
-/

namespace Tiered.Template

/-- A backslash. -/
def backslash : Code := 0x5C

/-- A row of code points with a backslash in front of each opener. -/
def escapeCodes : List Code → List Code
  | u :: v :: rest =>
    if u = brace ∧ v = brace then escapedOpener ++ escapeCodes rest
    else u :: escapeCodes (v :: rest)
  | us => us

/-- The template of a text that is to stand for itself. -/
def escape (t : Text) : Text := ⟨escapeCodes t.codes⟩

/-- The pieces of an escaped text: an escaped opener for each opener, and single code points. -/
def literalPieces : List Code → List Piece
  | u :: v :: rest =>
    if u = brace ∧ v = brace then .escaped :: literalPieces rest
    else .single u :: literalPieces (v :: rest)
  | us => us.map .single

/-- What follows a text does not change how the escaped text is cut into pieces: nothing follows, or
an opener does and the text does not end with what would escape it. -/
def Joins (us following : List Code) : Prop :=
  following = [] ∨
    opener <+: following ∧ ¬ [backslash] <:+ us ∧ ¬ [backslash, brace] <:+ us

/-! ### Where an escaped text is cut -/

section Pieces

variable {us vs following : List Code}

theorem Joins.of_suffix (h : Joins us following) (hs : vs <:+ us) : Joins vs following :=
  h.imp_right fun ⟨hopen, hback, hbrace⟩ =>
    ⟨hopen, fun hv => hback (hv.trans hs), fun hv => hbrace (hv.trans hs)⟩

/-- An escaped text begins as the text does, or with a backslash. -/
theorem exists_escapeCodes_cons (u : Code) (rest : List Code) :
    ∃ v later, escapeCodes (u :: rest) = v :: later ∧ (v = u ∨ v = backslash) := by
  cases rest with
  | nil => exact ⟨u, [], rfl, .inl rfl⟩
  | cons v rest =>
      rw [escapeCodes]
      split_ifs
      · exact ⟨backslash, opener ++ escapeCodes rest, rfl, .inr rfl⟩
      · exact ⟨u, escapeCodes (v :: rest), rfl, .inl rfl⟩

/-- What is special and no escaped opener begins with two braces and no third one. -/
theorem exists_source_placeholder {before name behind : List Code}
    (h : (Piece.placeholder before name behind).Special) :
    ∃ u later, (Piece.placeholder before name behind).source = brace :: brace :: u :: later ∧
      u ≠ brace := by
  obtain ⟨hbefore, hne, hname, -⟩ := h
  cases before with
  | nil =>
      obtain ⟨u, later, rfl⟩ := List.exists_cons_of_ne_nil hne
      exact ⟨u, later ++ behind ++ closer, by simp [Piece.source, opener],
        (hname u List.mem_cons_self).1⟩
  | cons u later =>
      refine ⟨u, later ++ name ++ behind ++ closer, by simp [Piece.source, opener], ?_⟩
      rintro rfl
      exact absurd (hbefore brace List.mem_cons_self) (by decide)

/-- An escaped text that begins with a brace is the escaped one of a text that does. -/
theorem eq_brace_of_escapeCodes {u : Code} {rest later : List Code}
    (h : escapeCodes (u :: rest) ++ following = brace :: later) : u = brace := by
  obtain ⟨v, more, hcons, hv⟩ := exists_escapeCodes_cons u rest
  rw [hcons, List.cons_append] at h
  obtain ⟨rfl, -⟩ := List.cons.inj h
  rcases hv with hu | hslash
  · exact hu.symm
  · exact absurd hslash (by decide)

/-- Behind a backslash no opener begins, neither in the escaped text nor behind it. -/
theorem ne_opener_of_joins {rest : List Code} (h : Joins (backslash :: rest) following)
    (later : List Code) : escapeCodes rest ++ following ≠ opener ++ later := by
  intro heq
  cases rest with
  | nil =>
      have hnil : following ≠ [] := by
        rintro rfl
        exact absurd heq (by simp [escapeCodes, opener])
      exact (h.resolve_left hnil).2.1 List.suffix_rfl
  | cons u rest =>
      obtain rfl := eq_brace_of_escapeCodes heq
      cases rest with
      | nil =>
          have hnil : following ≠ [] := by
            rintro rfl
            exact absurd heq (by simp [escapeCodes, opener])
          exact (h.resolve_left hnil).2.2 List.suffix_rfl
      | cons v rest =>
          rw [escapeCodes] at heq
          split_ifs at heq with hpair
          · exact absurd (List.cons.inj heq).1 (by decide)
          · have hv : v = brace := eq_brace_of_escapeCodes (List.cons.inj heq).2
            exact hpair ⟨rfl, hv⟩

/-- **A code point of a text that begins no opener there begins nothing special in the escaped
text.** -/
theorem special?_escapeCodes {u : Code} {rest : List Code}
    (hpair : ¬ (u = brace ∧ rest.head? = some brace)) (h : Joins (u :: rest) following) :
    special? (u :: (escapeCodes rest ++ following)) = none := by
  rw [Option.eq_none_iff_forall_ne_some]
  rintro ⟨p, later⟩ hspecial
  obtain ⟨hp, heq⟩ := special?_eq_some_iff.1 hspecial
  cases p with
  | single u => exact hp
  | escaped =>
      obtain ⟨rfl, hopener⟩ := List.cons.inj heq
      exact ne_opener_of_joins h later hopener
  | placeholder before name behind =>
      -- two braces stand here, and what follows them is none
      obtain ⟨w, more, hsource, hw⟩ := exists_source_placeholder hp
      rw [hsource] at heq
      obtain ⟨rfl, hrest⟩ := List.cons.inj heq
      cases rest with
      | nil =>
          rcases h with rfl | ⟨⟨later', rfl⟩, -⟩
          · exact absurd hrest (by simp [escapeCodes])
          · exact hw (List.cons.inj (List.cons.inj hrest).2).1.symm
      | cons v rest =>
          obtain rfl := eq_brace_of_escapeCodes hrest
          exact hpair ⟨rfl, rfl⟩

/-- **An escaped text is cut into pieces by itself.** -/
theorem pieces_escape_append (h : Joins us following) :
    pieces (escapeCodes us ++ following) = literalPieces us ++ pieces following := by
  fun_induction escapeCodes us with
  | case1 u v rest hpair ih =>
      have hspecial : special? (escapedOpener ++ (escapeCodes rest ++ following)) =
          some (.escaped, escapeCodes rest ++ following) :=
        special?_eq_some_iff.2 ⟨trivial, rfl⟩
      have hrest : Joins rest following := h.of_suffix (List.suffix_append [u, v] rest)
      rw [literalPieces, if_pos hpair, List.append_assoc, pieces_of_special hspecial, ih hrest,
        List.cons_append]
  | case2 u v rest hpair ih =>
      have hhead : ¬ (u = brace ∧ (v :: rest).head? = some brace) := by
        rwa [List.head?_cons, Option.some.injEq]
      have hnone := special?_escapeCodes hhead h
      rw [literalPieces, if_neg hpair, List.cons_append, pieces_cons_of_none hnone,
        ih (h.of_suffix (List.suffix_cons u _)), List.cons_append]
  | case3 us hshort =>
      rcases us with - | ⟨u, - | ⟨v, rest⟩⟩
      · rfl
      · have hhead : ¬ (u = brace ∧ ([] : List Code).head? = some brace) := by simp
        exact pieces_cons_of_none (special?_escapeCodes hhead h)
      · exact (hshort u v rest rfl).elim

end Pieces

/-! ### What becomes of an escaped text -/

theorem filledBy_literalPieces (r : Resolver) (shown : Text → Text) (us : List Code) :
    (literalPieces us).flatMap (Piece.filledBy r shown) = us := by
  fun_induction literalPieces us with
  | case1 u v rest hpair ih =>
      obtain ⟨rfl, rfl⟩ := hpair
      rw [List.flatMap_cons, ih]
      rfl
  | case2 u v rest hpair ih =>
      rw [List.flatMap_cons, ih]
      rfl
  | case3 us hshort =>
      rw [List.flatMap_map]
      exact List.flatMap_singleton' us

theorem names_literalPieces (us : List Code) :
    ((literalPieces us).filterMap fun p => p.name?.map Text.mk) = [] := by
  fun_induction literalPieces us with
  | case1 u v rest hpair ih => exact ih
  | case2 u v rest hpair ih => exact ih
  | case3 us hshort =>
      rw [List.filterMap_map, List.filterMap_eq_nil_iff]
      exact fun u hu => rfl

/-- Alone, an escaped text is cut into pieces that become the text and have no names. -/
theorem pieces_escape (t : Text) : pieces (escape t).codes = literalPieces t.codes := by
  have hjoins : Joins t.codes [] := .inl rfl
  have hpieces := pieces_escape_append hjoins
  rwa [List.append_nil, pieces_nil, List.append_nil] at hpieces

theorem occurrences_escape (t : Text) : occurrences (escape t) = [] := by
  rw [occurrences, pieces_escape, names_literalPieces]

theorem fillText_escape (r : Resolver) (shown : Text → Text) (t : Text) :
    fillText r shown (escape t) = t := by
  rw [fillText, pieces_escape, filledBy_literalPieces]

/-- A template whose names are all held is filled in, with strictness or without. -/
theorem render_of_held {r : Renderer} {shown : Text → Text} {t : Text}
    (hshown : ∀ name ∈ occurrences t, ∃ v tier,
      r.resolver.find? (.text name) = some (v, tier) ∧ valueText v = .ok (shown name))
    (strict : Bool) : (Renderer.render (.text t) strict r).result =
      .ok (.text (fillText r.resolver shown t)) := by
  have hshows : ∀ name ∈ occurrences t, Shows r.resolver shown name := by
    intro name hname v tier hfound
    obtain ⟨v', tier', hfound', htext⟩ := hshown name hname
    obtain ⟨rfl, -⟩ := Prod.mk.inj (Option.some.inj (hfound.symm.trans hfound'))
    exact htext
  have hheld : Renderer.unheld r.resolver (occurrences t) = [] := by
    refine List.eq_nil_iff_forall_not_mem.2 fun name hname => ?_
    obtain ⟨hmem, hnot⟩ := Renderer.mem_unheld.1 hname
    obtain ⟨v, tier, hfound, -⟩ := hshown name hmem
    rw [Resolver.holds_eq, hfound] at hnot
    exact absurd hnot (by simp)
  have hfills := Renderer.composes_fills.map (Renderer.fills_text hshows) Value.text
  rw [Renderer.render_of_fills hfills]
  exact if_neg fun hmissing => hmissing.2 hheld

/-! ### Weaving -/

/-- A text, and a placeholder behind it with what stands around its name. -/
structure Segment where
  literal : Text
  before : List Code
  name : Text
  behind : List Code
  deriving Repr

namespace Segment

/-- The placeholder of a segment. -/
def placeholder (g : Segment) : Piece := .placeholder g.before g.name.codes g.behind

/-- The segment in a template. -/
def source (g : Segment) : List Code := escapeCodes g.literal.codes ++ g.placeholder.source

/-- Nothing but white space stands around what can be a name, and the text does not end with what
would escape the placeholder. -/
structure Sound (g : Segment) : Prop where
  special : g.placeholder.Special
  backslash : ¬ [backslash] <:+ g.literal.codes
  brace : ¬ [Template.backslash, brace] <:+ g.literal.codes

end Segment

/-- The template of segments and a text behind them. -/
def weave (segments : List Segment) (last : Text) : Text :=
  ⟨segments.flatMap Segment.source ++ escapeCodes last.codes⟩

section Weave

variable {segments : List Segment} {last : Text}

theorem pieces_weave (h : ∀ g ∈ segments, g.Sound) : pieces (weave segments last).codes =
    segments.flatMap (fun g => literalPieces g.literal.codes ++ [g.placeholder]) ++
      literalPieces last.codes := by
  induction segments with
  | nil => exact pieces_escape last
  | cons g segments ih =>
      obtain ⟨hg, hsegments⟩ := List.forall_mem_cons.1 h
      obtain ⟨rest, hrest⟩ : ∃ rest, rest = (weave segments last).codes := ⟨_, rfl⟩
      have hcodes : (weave (g :: segments) last).codes =
          escapeCodes g.literal.codes ++ (g.placeholder.source ++ rest) := by
        simp [hrest, weave, Segment.source]
      have hjoins : Joins g.literal.codes (g.placeholder.source ++ rest) := by
        refine .inr ⟨?_, hg.backslash, hg.brace⟩
        simp only [Segment.placeholder, Piece.source, List.append_assoc]
        exact List.prefix_append _ _
      have hspecial : special? (g.placeholder.source ++ rest) = some (g.placeholder, rest) :=
        special?_eq_some_iff.2 ⟨hg.special, rfl⟩
      rw [hcodes, pieces_escape_append hjoins, pieces_of_special hspecial, hrest, ih hsegments]
      simp

theorem occurrences_weave (h : ∀ g ∈ segments, g.Sound) :
    occurrences (weave segments last) = segments.map Segment.name := by
  rw [occurrences, pieces_weave h, List.filterMap_append, names_literalPieces, List.append_nil,
    List.filterMap_flatMap, List.map_eq_flatMap]
  refine List.flatMap_congr fun g hg => ?_
  rw [List.filterMap_append, names_literalPieces]
  rfl

theorem fillText_weave {r : Resolver} {shown : Text → Text} (h : ∀ g ∈ segments, g.Sound)
    (hheld : ∀ g ∈ segments, r.holds (.text g.name) = true) :
    fillText r shown (weave segments last) =
      ⟨segments.flatMap (fun g => g.literal.codes ++ (shown g.name).codes) ++ last.codes⟩ := by
  rw [fillText, pieces_weave h, List.flatMap_append, filledBy_literalPieces, List.flatMap_assoc]
  refine congrArg (fun us => Text.mk (us ++ last.codes)) (List.flatMap_congr fun g hg => ?_)
  rw [List.flatMap_append, filledBy_literalPieces, List.flatMap_singleton, Segment.placeholder,
    Piece.filledBy, hheld g hg, if_pos rfl]

/-- **Any texts can be woven with placeholders.**  Let texts be escaped and have placeholders
between them, before which no text ends with what would escape them, and let each name be held with
a value that has a text.  Then the template is rendered to the texts with the texts of the values
between them, and its names are those of the placeholders.  An escaped text alone is rendered to
itself, whatever the resolver holds, and has no names. -/
theorem render_weave (segments : List Segment) (last : Text) (r : Renderer) (shown : Text → Text)
    (hsound : ∀ g ∈ segments, g.Sound)
    (hshown : ∀ g ∈ segments, ∃ v tier, r.resolver.find? (.text g.name) = some (v, tier) ∧
      valueText v = .ok (shown g.name)) :
    (∀ strict, (Renderer.render (.text (weave segments last)) strict r).result = .ok (.text
        ⟨segments.flatMap (fun g => g.literal.codes ++ (shown g.name).codes) ++ last.codes⟩)) ∧
      names (weave segments last) = (segments.map Segment.name).eraseDups ∧
      ∀ t : Text, names (escape t) = [] ∧ ∀ (r' : Renderer) (strict : Bool),
        (Renderer.render (.text (escape t)) strict r').result = .ok (.text t) := by
  have hnames : ∀ name ∈ occurrences (weave segments last), ∃ v tier,
      r.resolver.find? (.text name) = some (v, tier) ∧ valueText v = .ok (shown name) := by
    rw [occurrences_weave hsound, List.forall_mem_map]
    exact hshown
  have hheld : ∀ g ∈ segments, r.resolver.holds (.text g.name) = true := by
    intro g hg
    obtain ⟨v, tier, hfound, -⟩ := hshown g hg
    rw [Resolver.holds_eq, hfound, Option.isSome_some]
  refine ⟨fun strict => ?_, ?_, fun t => ⟨?_, fun r' strict => ?_⟩⟩
  · rw [render_of_held hnames, fillText_weave hsound hheld]
  · rw [names_eq_eraseDups, occurrences_weave hsound]
  · rw [names_eq_eraseDups, occurrences_escape, List.eraseDups_nil]
  · have hnone : ∀ name ∈ occurrences (escape t), ∃ v tier,
        r'.resolver.find? (.text name) = some (v, tier) ∧ valueText v = .ok (id name) := by
      rw [occurrences_escape]
      exact List.forall_mem_nil _
    rw [render_of_held hnone, fillText_escape]

/-- An opener with a third brace behind it. -/
def braces : Text := ⟨[brace, brace, brace]⟩

/-- A text that looks like an escaped placeholder with a third brace, and behind it a placeholder
with white space on one side. -/
def lookalike : Segment where
  literal := ⟨escapedOpener ++ brace :: 0x61 :: (closer ++ [backslash, brace, 0x62, brace])⟩
  before := [0x20]
  name := ⟨[0x61]⟩
  behind := []

/-- The text comes back with its backslashes and braces, also the brace in front of the placeholder,
and what the placeholder stands for is put in behind it. -/
theorem render_weave_lookalike :
    (Renderer.render (.text (weave [lookalike] braces)) true trickyRenderer).result =
      .ok (.text ⟨lookalike.literal.codes ++ (opener ++ 0x61 :: closer) ++ braces.codes⟩) ∧
      (weave [lookalike] braces).codes =
        [backslash, backslash] ++ opener ++ brace :: 0x61 :: (closer ++
          [backslash, brace, 0x62, brace] ++ (opener ++ 0x20 :: 0x61 :: closer) ++
            (escapedOpener ++ [brace])) := by
  have hspecial : special? lookalike.placeholder.source = some (lookalike.placeholder, []) := rfl
  have hsound : lookalike.Sound := ⟨(special?_eq_some_iff.1 hspecial).1, by decide, by decide⟩
  obtain ⟨hrender, -⟩ := render_weave [lookalike] braces trickyRenderer
    (fun _ => ⟨opener ++ 0x61 :: closer⟩) (List.forall_mem_singleton.2 hsound)
    (List.forall_mem_singleton.2 ⟨_, _, find?_trickyRenderer, rfl⟩)
  exact ⟨hrender true, by decide⟩

end Weave

end Tiered.Template
