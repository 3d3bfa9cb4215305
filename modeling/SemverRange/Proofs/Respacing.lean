/-
SemverRange/Proofs/Respacing.lean

Which blanks a requirement has, and how many, does not matter.

The text that a literal keeps only shows in errors, so a literal and the same literal
with its text squeezed are spellings of one another
(`Literal.IsWellFormed.isRespelling_squeezed`) and have the same clauses.  A spaced dash
is found in a squeezed text just in case it is found in the text
(`Literal.hasSpacedDash_squeeze`).  So the pieces of a squeezed requirement have the
clauses that they have in the requirement itself (`Requirement.pieceClauses?_squeeze`), and
two texts that differ in their runs of blanks alone compile to the same alternatives, or do
not parse, or are rejected (`Requirement.ofText_respaced`).
-/
import SemverRange.Proofs.GroupSets
import SemverRange.Proofs.Outcome
import SemverRange.Proofs.Spellings
import SemverRange.Proofs.Squeezing

namespace SemverRange

open Text (AllBlank StartsBlank isBlank skipBlanks squeeze)

/-! ### Spaced dashes -/

theorem isPrefixOf?_of_startsBlank {m s : Text} (hne : m ≠ [])
    (hm : ∀ c ∈ m, isBlank c = false) (hs : StartsBlank s) : m.isPrefixOf? s = none := by
  obtain ⟨c, m, rfl⟩ := List.exists_cons_of_ne_nil hne
  rw [Option.eq_none_iff_forall_not_mem]
  intro t ht
  exact hs.ne_cons (hm c (by simp)) _ (isPrefixOf?_eq_some_iff.mp ht)

/-- A piece without blanks stands at the front of a squeezed text if it does so in the
text. -/
theorem isPrefixOf?_squeeze {m : Text} (hm : ∀ c ∈ m, isBlank c = false) (s : Text) :
    m.isPrefixOf? (squeeze s) = (m.isPrefixOf? s).map squeeze := by
  induction m generalizing s with
  | nil => rfl
  | cons c m ih =>
    rcases Text.squeeze_cases s with ⟨hs, hs'⟩ | ⟨d, t, -, rfl, hst⟩
    · rw [isPrefixOf?_of_startsBlank (by simp) hm hs, isPrefixOf?_of_startsBlank (by simp) hm hs']
      rfl
    · rw [hst, List.isPrefixOf?, List.isPrefixOf?, ih fun c' hc' => hm c' (by simp [hc'])]
      split <;> rfl

theorem prefix_squeeze_iff {m : Text} (hm : ∀ c ∈ m, isBlank c = false) {s : Text} :
    m <+: squeeze s ↔ m <+: s := by
  have hfront : ∀ u, m <+: u ↔ ∃ t, m.isPrefixOf? u = some t := by
    intro u
    simp only [isPrefixOf?_eq_some_iff, List.IsPrefix, eq_comm]
  simp [hfront, isPrefixOf?_squeeze hm]

/-- Where a piece begins with no blank, all blanks before it are skipped. -/
theorem beginsAfterSpacedDash_iff_skipBlanks {piece s : Text} (hne : piece ≠ [])
    (hhead : ∀ c ∈ piece.head?, isBlank c = false) :
    beginsAfterSpacedDash piece s = true ↔
      ∃ t, skipBlanks s = '-' :: t ∧
        (s.head?.any isBlank = true ∨ t.head?.any isBlank = true) ∧ piece <+: skipBlanks t := by
  have hany : ∀ {w : Text} {u : Text}, AllBlank w → w ≠ [] →
      (w ++ u).head?.any isBlank = true := by
    intro w u hw hwne
    obtain ⟨b, w, rfl⟩ := List.exists_cons_of_ne_nil hwne
    simpa using hw b (by simp)
  rw [beginsAfterSpacedDash_iff]
  constructor
  · rintro ⟨w₁, w₂, rest, hw₁, hw₂, hblank, rfl⟩
    refine ⟨w₂ ++ piece ++ rest, ?_, ?_, rest, ?_⟩
    · rw [Text.skipBlanks_append_left hw₁, Text.skipBlanks_eq_self (by simp [isBlank_hyphen])]
    · rw [List.append_assoc]
      exact hblank.imp (hany hw₁) (hany hw₂)
    · rw [List.append_assoc, Text.skipBlanks_append_left hw₂, Text.skipBlanks_eq_self]
      rwa [List.head?_append_of_ne_nil _ hne]
  · rintro ⟨t, hs, hblank, rest, ht⟩
    obtain ⟨w₁, hw₁, hs'⟩ := Text.skipBlanks_decomposition s
    obtain ⟨w₂, hw₂, ht'⟩ := Text.skipBlanks_decomposition t
    rw [hs] at hs'
    rw [← ht] at ht'
    refine ⟨w₁, w₂, rest, hw₁, hw₂, ?_, by rw [hs', ht', List.append_assoc]⟩
    -- where there is no blank, neither text begins with one
    by_contra hnil
    obtain ⟨rfl, rfl⟩ : w₁ = [] ∧ w₂ = [] := by simpa [not_or] using hnil
    rw [hs', ht'] at hblank
    rcases hblank with hblank | hblank
    · simp [isBlank_hyphen] at hblank
    · rw [List.nil_append, List.head?_append_of_ne_nil _ hne, Option.any_eq_true] at hblank
      obtain ⟨c, hc, hblank⟩ := hblank
      rw [hhead c hc] at hblank
      cases hblank

theorem beginsAfterSpacedDash_squeeze {piece : Text} (hne : piece ≠ [])
    (hpiece : ∀ c ∈ piece, isBlank c = false) (s : Text) :
    beginsAfterSpacedDash piece (squeeze s) = beginsAfterSpacedDash piece s := by
  have hhead : ∀ c ∈ piece.head?, isBlank c = false := fun c hc =>
    hpiece c (List.mem_of_mem_head? hc)
  rw [Bool.eq_iff_iff, beginsAfterSpacedDash_iff_skipBlanks hne hhead,
    beginsAfterSpacedDash_iff_skipBlanks hne hhead]
  simp only [Text.skipBlanks_squeeze, Text.squeeze_eq_cons_iff isBlank_hyphen,
    Text.isBlank_head?_squeeze]
  constructor
  · rintro ⟨_, ⟨t, hs, rfl⟩, hblank, hpre⟩
    rw [Text.isBlank_head?_squeeze] at hblank
    rw [Text.skipBlanks_squeeze, prefix_squeeze_iff hpiece] at hpre
    exact ⟨t, hs, hblank, hpre⟩
  · rintro ⟨t, hs, hblank, hpre⟩
    refine ⟨squeeze t, ⟨t, hs, rfl⟩, ?_, ?_⟩
    · rwa [Text.isBlank_head?_squeeze]
    · rwa [Text.skipBlanks_squeeze, prefix_squeeze_iff hpiece]

namespace Literal

variable {l : Literal}

theorem isBlank_eq_false_of_mem_tripleText (hl : l.IsWellFormed) (hpre : l.preRelease ≠ []) :
    ∀ c ∈ l.tripleText, isBlank c = false := by
  rw [hl.tripleText_eq_fieldsText hpre]
  exact hl.isBlank_eq_false_of_mem_fieldsText

theorem beginsSpaced_squeeze (hl : l.IsWellFormed) (hpre : l.preRelease ≠ []) (s : Text) :
    l.beginsSpaced (squeeze s) = l.beginsSpaced s := by
  rw [beginsSpaced, isPrefixOf?_squeeze (isBlank_eq_false_of_mem_tripleText hl hpre), beginsSpaced]
  rcases l.tripleText.isPrefixOf? s with - | r
  · rfl
  · exact beginsAfterSpacedDash_squeeze (dotted_ne_nil hpre hl.preRelease)
      (isBlank_eq_false_of_mem_dotted fun i hi => (hl.preRelease i hi).isBlank_eq_false) r

/-- **A spaced dash is found in a squeezed text just in case it is found in the text.** -/
theorem hasSpacedDash_squeeze (hl : l.IsWellFormed) (hpre : l.preRelease ≠ []) (s : Text) :
    l.hasSpacedDash (squeeze s) = l.hasSpacedDash s := by
  induction s with
  | nil => rfl
  | cons c s ih =>
    rcases hc : isBlank c with - | -
    · rw [Text.squeeze_cons hc, hasSpacedDash, ih, hasSpacedDash, ← Text.squeeze_cons hc,
        beginsSpaced_squeeze hl hpre]
    · -- the literal does not begin with a blank
      have hfalse : ∀ {b : Char} {t : Text}, isBlank b = true →
          l.beginsSpaced (b :: t) = false := by
        intro b t hb
        have hne : l.tripleText ≠ [] := by simp [tripleText, Text.dotted_cons]
        rw [beginsSpaced, isPrefixOf?_of_startsBlank hne
          (isBlank_eq_false_of_mem_tripleText hl hpre) (by simpa [StartsBlank] using hb)]
        rfl
      rw [Text.squeeze_blank_cons hc, hasSpacedDash, hfalse hc, Bool.false_or]
      split
      · exact ih
      · rw [hasSpacedDash, hfalse (by decide), Bool.false_or, ih]

end Literal

/-! ### Clauses, errors left out -/

namespace Literal

variable {l : Literal}

theorem IsWellFormed.squeezed (hl : l.IsWellFormed) : l.squeezed.IsWellFormed :=
  ⟨hl.major, hl.minor, hl.patch, hl.patch_of_minor, hl.untagged, hl.preRelease, hl.build⟩

/-- Squeezing its text keeps the spelling of a literal. -/
theorem IsWellFormed.isRespelling_squeezed (hl : l.IsWellFormed) : l.squeezed.IsRespelling l where
  major := .refl hl.isField_major
  minor := .refl hl.minor
  patch := .refl hl.patch
  preRelease := rfl
  build := rfl

end Literal

theorem DashRange.toOption_clause_squeezed {d : DashRange} (hlower : d.lower.IsWellFormed)
    (hupper : d.upper.IsWellFormed) :
    d.squeezed.clause.toOption = d.clause.toOption := by
  have hlow := hlower.isRespelling_squeezed.toOption_lowest_eq hlower.squeezed hlower
  have hhigh := hupper.isRespelling_squeezed.toOption_highest_eq hupper.squeezed hupper
  rw [toOption_clause, squeezed, hlow, hhigh, ← toOption_clause]

theorem Comparison.toOption_clause_squeezed {c : Comparison} (hc : c.version.IsWellFormed) :
    c.squeezed.clause.toOption = c.clause.toOption :=
  hc.isRespelling_squeezed.toOption_comparison_eq hc.squeezed hc c.sign

/-- A spaced dash is searched by the parts of a literal alone. -/
theorem Literal.hasSpacedDash_squeezed (l : Literal) (s : Text) :
    l.squeezed.hasSpacedDash s = l.hasSpacedDash s := by
  rw [Bool.eq_iff_iff, hasSpacedDash_iff, hasSpacedDash_iff]
  exact Iff.rfl

theorem Comparison.dashRange?_squeezed {c : Comparison} (hc : c.version.IsWellFormed) (s : Text) :
    c.squeezed.dashRange? (squeeze s) = c.dashRange? s := by
  have hdash : (c.version.squeezed.preRelease ≠ [] ∧
        c.version.squeezed.hasSpacedDash (squeeze s) = true) ↔
      (c.version.preRelease ≠ [] ∧ c.version.hasSpacedDash s = true) := by
    apply and_congr_right
    intro hpre
    rw [Literal.hasSpacedDash_squeezed, Literal.hasSpacedDash_squeeze hc hpre]
  simp only [dashRange?_eq_ite, squeezed, hdash]
  rfl

namespace Requirement

/-! ### Pieces of a squeezed requirement -/

theorem toOption_compileCondition_squeezed {raw : Text} {c : Condition} (hc : c.IsRead) :
    (compileCondition (squeeze raw) c.squeezed).outcome.toOption =
      (compileCondition raw c).outcome.toOption := by
  cases c with
  | comparison c =>
    have hwell := Literal.IsRead.isWellFormed hc
    rw [Condition.squeezed, outcome_compileCondition_comparison,
      outcome_compileCondition_comparison, Comparison.dashRange?_squeezed hwell]
    rcases c.dashRange? raw with - | d
    · exact Comparison.toOption_clause_squeezed hwell
    · rfl
  | dashRange d =>
    exact DashRange.toOption_clause_squeezed (Literal.IsRead.isWellFormed hc.1)
      (Literal.IsRead.isWellFormed hc.2)

theorem dashesLast_squeezed (g : Group) :
    Group.dashesLast (g.map Condition.squeezed) = (Group.dashesLast g).map Condition.squeezed := by
  have hcomparisons : Group.comparisons (g.map Condition.squeezed) =
      (Group.comparisons g).map Comparison.squeezed := by
    rw [Group.comparisons, List.filterMap_map, Group.comparisons, List.map_filterMap]
    congr 1
    funext c
    cases c <;> rfl
  have hdashRanges : Group.dashRanges (g.map Condition.squeezed) =
      (Group.dashRanges g).map DashRange.squeezed := by
    rw [Group.dashRanges, List.filterMap_map, Group.dashRanges, List.map_filterMap]
    congr 1
    funext c
    cases c <;> rfl
  rw [Group.dashesLast, hcomparisons, hdashRanges, Group.dashesLast, List.map_append]
  simp only [List.map_map]
  rfl

/-- **A piece has the clauses that it has when all is squeezed.** -/
theorem pieceClauses?_squeeze (raw piece : Text) :
    pieceClauses? (squeeze raw) (squeeze piece) = pieceClauses? raw piece := by
  rw [pieceClauses?, toOption_readGroup_squeeze, pieceClauses?]
  rcases hread : readGroup piece with rest | g
  · rfl
  · show (compileGroup (squeeze raw) (g.map Condition.squeezed)).outcome.toOption
      = (compileGroup raw g).outcome.toOption
    apply Traced.toOption_forEach_congr
    rw [dashesLast_squeezed, List.map_map, List.map_inj_left]
    intro c hc
    exact toOption_compileCondition_squeezed
      ((readGroup_eq_ok_iff.mp hread).isRead c (mem_of_mem_dashesLast hc))

theorem map_pieceClauses?_squeeze (s : Text) :
    (segments (squeeze s)).map (pieceClauses? (squeeze s)) = (segments s).map (pieceClauses? s) := by
  rw [segments_squeeze, List.map_map, List.map_inj_left]
  intro p _
  exact pieceClauses?_squeeze s p

theorem exists_parse_squeeze_iff {s : Text} :
    (∃ gs, parse (squeeze s) = .ok gs) ↔ ∃ gs, parse s = .ok gs := by
  simp only [parse_eq_ok_iff, exists_map_eq_map_some_iff, segments_squeeze, List.forall_mem_map,
    toOption_readGroup_squeeze, Option.isSome_map]

/-! ### Requirements that differ in their blanks -/

/-- A requirement that does not compile does not parse or is rejected. -/
theorem cause_of_ofText_eq_error {s : Text} {e : RequirementError} (h : ofText s = .error e) :
    ((¬ ∃ gs, parse s = .ok gs) ∧ ∃ position, e.cause = .unreadable position) ∨
      ((∃ gs, parse s = .ok gs) ∧ ∃ fragment, e.cause = .rejected fragment) := by
  simp only [← parse_strip_eq_ok_iff (s := s)]
  rw [ofText, compile, compileStripped] at h
  rcases hparse : parse (Text.strip s) with p | gs
  · rw [hparse] at h
    cases h
    exact .inl ⟨by simp, p, rfl⟩
  · rw [hparse] at h
    rcases hgroups : (Traced.forEach (compileGroup (Text.strip s)) gs).outcome with e' | ks
    · obtain ⟨fragment, rfl, -, -⟩ := rejectsPieceOf_of_forEach hparse hgroups
      simp only [hgroups] at h
      cases h
      exact .inr ⟨⟨gs, rfl⟩, fragment, rfl⟩
    · simp only [hgroups] at h
      cases h

/-- **The kind and the number of blanks do not matter.**  Two texts that differ in their
runs of blanks alone both compile, to the same alternatives, or both do not parse, or are
both rejected. -/
theorem ofText_respaced {s t : Text} (h : Text.Respaced s t) :
    (∃ r r', ofText s = .ok r ∧ ofText t = .ok r' ∧ r.alternatives = r'.alternatives) ∨
      ∃ e e', ofText s = .error e ∧ ofText t = .error e' ∧
        ((∃ position position', e.cause = .unreadable position ∧
            e'.cause = .unreadable position') ∨
          ∃ fragment fragment', e.cause = .rejected fragment ∧ e'.cause = .rejected fragment') := by
  have hsqueeze := Text.respaced_iff.mp h
  have hpieces : (segments s).map (pieceClauses? s) = (segments t).map (pieceClauses? t) := by
    rw [← map_pieceClauses?_squeeze s, hsqueeze, map_pieceClauses?_squeeze]
  have hparse : (∃ gs, parse s = .ok gs) ↔ ∃ gs, parse t = .ok gs := by
    rw [← exists_parse_squeeze_iff, hsqueeze, exists_parse_squeeze_iff]
  have hcompiles : (∃ r, ofText s = .ok r) ↔ ∃ r, ofText t = .ok r := by
    rw [exists_ofText_eq_ok_iff, exists_ofText_eq_ok_iff, ← exists_map_eq_map_some_iff, hpieces,
      exists_map_eq_map_some_iff]
  rcases hs : ofText s with e | r
  · rcases ht : ofText t with e' | r'
    · refine .inr ⟨e, e', rfl, rfl, ?_⟩
      rcases cause_of_ofText_eq_error hs with ⟨hno, p, hp⟩ | ⟨hyes, f, hf⟩
      · rcases cause_of_ofText_eq_error ht with ⟨-, p', hp'⟩ | ⟨hyes, -⟩
        · exact .inl ⟨p, p', hp, hp'⟩
        · exact absurd (hparse.mpr hyes) hno
      · rcases cause_of_ofText_eq_error ht with ⟨hno, -⟩ | ⟨-, f', hf'⟩
        · exact absurd (hparse.mp hyes) hno
        · exact .inr ⟨f, f', hf, hf'⟩
    · obtain ⟨r, hr⟩ := hcompiles.mpr ⟨r', ht⟩
      rw [hs] at hr
      cases hr
  · obtain ⟨r', hr'⟩ := hcompiles.mp ⟨r, hs⟩
    have hsame := (ofText_eq_ok_iff_pieces.mp hs).2
    rw [hpieces, (ofText_eq_ok_iff_pieces.mp hr').2] at hsame
    exact .inl ⟨r, r', rfl, hr', List.map_injective_iff.mpr (Option.some_injective _) hsame.symm⟩

/-- A tab, an end of line and a no-break space in place of spaces: beside a hyphen they
make a range as spaces do. -/
theorem ofText_respaced_range :
    ∃ r r', ofText " 1.1.1 -2.2.2 >= 1.0.0 ||  *".toList = .ok r ∧
      ofText "\t1.1.1\u00a0\u00a0-2.2.2\r\n>=\t1.0.0\n||\u2003*".toList = .ok r' ∧
      r.alternatives = r'.alternatives ∧ r.alternatives.map List.length = [2, 1] := by
  let range : Clause :=
    { kind := .dash, releasesOnly := true,
      interval := { lower := .ofTriple (1, 1, 1), upper := .ofTriple (2, 2, 2) } }
  let atLeast : Clause :=
    { kind := .comparison .greaterOrEqual,
      interval := { lower := .ofTriple (1, 0, 0), upper := .greatest } }
  let any : Clause := { kind := .comparison .equal, interval := .whole }
  have hs : ofText " 1.1.1 -2.2.2 >= 1.0.0 ||  *".toList
      = .ok ⟨"1.1.1 -2.2.2 >= 1.0.0 ||  *".toList, [[range, atLeast], [any]]⟩ := by cbv
  have hrespaced : Text.Respaced " 1.1.1 -2.2.2 >= 1.0.0 ||  *".toList
      "\t1.1.1\u00a0\u00a0-2.2.2\r\n>=\t1.0.0\n||\u2003*".toList := by decide +kernel
  rcases ofText_respaced hrespaced with ⟨r, r', hr, hr', hsame⟩ | ⟨e, e', he, -, -⟩
  · refine ⟨r, r', hr, hr', hsame, ?_⟩
    obtain rfl := Except.ok.inj (hs.symm.trans hr)
    rfl
  · rw [hs] at he
    cases he

end Requirement

end SemverRange
