import GrammarLint.Proofs.Tokens

/-!
# What is left after masking

Masking blanks characters and cuts the end off. So much can be seen pass
by pass (`dims_blankStringsFrom`, `cutTail_isPrefix`,
`dims_blankRegexpsFrom`). The question is whether what is left is clean,
since every pass looks for its own marks only and a later pass might bring
a mark back that an earlier one has removed.

It cannot. A blank is no part of a mark, so quotes and cuts can only get fewer.
Only a regular expression has room for blanks, and there the order of the passes
decides: theirs is the last. What it leaves of a slash is the harder half. A
slash stays if the walk from it to a closing slash fails, and the text behind it
is changed afterwards. But a walk fails at the end of the text or at a backslash
before a line break, and every slash that it has passed by then was escaped, so
the walk from there fails at the same place. Up to that place nothing is
blanked, and the walk fails there again (`closesRegexp_blankRegexps`).

A text without marks is not changed by any pass. So the clean texts are exactly
those that masking leaves as they are, and masking twice is masking once.
-/

namespace GrammarLint.Body

/-- The text may stand between the slashes of a regular expression: a
backslash takes the next character along, which is no line break, and every
slash is taken along. -/
def isRegexpInside : Text → Bool
  | [] => true
  | '\\' :: c :: cs => c != '\n' && isRegexpInside cs
  | c :: cs => c != '/' && c != '\\' && isRegexpInside cs

/-- The whole text is a regular expression with its flags. -/
def IsRegexp (t : Text) : Prop :=
  ∃ inner flags, t = '/' :: (inner ++ '/' :: flags) ∧
    isRegexpInside inner = true ∧
    ∀ c ∈ flags, isRegexpFlag c = true

/-- Nothing in the text is left to mask: it has no mark of a cut, no two quotes
that could be a string, and no regular expression anywhere. -/
structure IsMasked (text : Text) : Prop where
  comment : ¬ ['/', '/'] <:+: text
  arrow : ¬ ['-', '>'] <:+: text
  quotes : text.count '"' ≤ 1
  regexps : ∀ t, IsRegexp t → ¬ t <:+: text

theorem closesRegexp_iff {cs : Text} :
    closesRegexp cs = true ↔
      ∃ inner rest, cs = inner ++ '/' :: rest ∧
        isRegexpInside inner = true := by
  constructor
  · intro h
    fun_induction closesRegexp cs with
    | case1 => cases h
    | case2 c cs ih =>
        rw [Bool.and_eq_true] at h
        obtain ⟨inner, rest, rfl, hinner⟩ := ih h.2
        exact ⟨'\\' :: c :: inner, rest, rfl,
          by rw [isRegexpInside, h.1, hinner]; rfl⟩
    | case3 c cs hpair ih =>
        simp only [Bool.or_eq_true, Bool.and_eq_true, beq_iff_eq,
          bne_iff_ne] at h
        by_cases hslash : c = '/'
        · exact ⟨[], cs, by rw [hslash]; rfl, rfl⟩
        · obtain ⟨hback, hcs⟩ := h.resolve_left hslash
          obtain ⟨inner, rest, rfl, hinner⟩ := ih hcs
          refine ⟨c :: inner, rest, rfl, ?_⟩
          rw [isRegexpInside]
          · simp [hslash, hback, hinner]
          · intro d ds h
            exact absurd h hback
  · intro h
    obtain ⟨inner, rest, rfl, hinner⟩ := h
    fun_induction isRegexpInside inner with
    | case1 => rfl
    | case2 c cs ih =>
        rw [Bool.and_eq_true] at hinner
        rw [List.cons_append, List.cons_append, closesRegexp, hinner.1,
          ih hinner.2]
        rfl
    | case3 c cs _ ih =>
        simp only [Bool.and_eq_true, bne_iff_ne] at hinner
        obtain ⟨⟨-, hback⟩, hcs⟩ := hinner
        rw [List.cons_append, closesRegexp]
        · simp [hback, ih hcs]
        · intro d ds h
          exact absurd h hback

/-- A text has no regular expression exactly if no slash in it is closed. -/
theorem regexp_free_iff {text : Text} :
    (∀ t, IsRegexp t → ¬ t <:+: text) ↔
      ∀ cs, '/' :: cs <:+ text → closesRegexp cs = false := by
  constructor
  · intro h cs hcs
    rw [← Bool.not_eq_true]
    intro hclosed
    obtain ⟨inner, rest, rfl, hinner⟩ := closesRegexp_iff.mp hclosed
    refine h ('/' :: (inner ++ ['/'])) ⟨inner, [], rfl, hinner, by simp⟩ ?_
    refine List.IsInfix.trans ⟨[], rest, ?_⟩ hcs.isInfix
    simp
  · intro h t ht hinfix
    obtain ⟨inner, flags, rfl, hinner, -⟩ := ht
    obtain ⟨before, after, rfl⟩ := hinfix
    have hopen := h (inner ++ '/' :: (flags ++ after)) ⟨before, by simp⟩
    have hclosed := closesRegexp_iff.mpr ⟨inner, flags ++ after, rfl, hinner⟩
    rw [hopen] at hclosed
    cases hclosed

/-! ## One step of each pass

Whatever its state, a pass answers a character with a blank or with that
character. It keeps a mark only if nothing behind completes it. -/

theorem blankStringsFrom_emits (state : QuoteState) (c : Char) (cs : Text) :
    ∃ (d : Char) (next : QuoteState),
      blankStringsFrom state (c :: cs) = d :: blankStringsFrom next cs ∧
      (d = ' ' ∨ d = c ∧ (c = '"' → '"' ∉ cs)) := by
  by_cases hstate : state = .inside
  · subst hstate
    exact ⟨' ', _, rfl, .inl rfl⟩
  · rw [blankStringsFrom_outer hstate]
    split
    · exact ⟨' ', _, rfl, .inl rfl⟩
    · split
      · exact ⟨' ', _, rfl, .inl rfl⟩
      · next hquote => exact ⟨c, _, rfl,
          .inr ⟨rfl, fun hc hmem => hquote ⟨hc, hmem⟩⟩⟩

theorem blankRegexpsFrom_outside (c : Char) (cs : Text) :
    blankRegexpsFrom .outside (c :: cs) =
      if c = '/' ∧ closesRegexp cs then ' ' :: blankRegexpsFrom .inside cs
      else c :: blankRegexpsFrom .outside cs := by
  simp [blankRegexpsFrom]

theorem blankRegexpsFrom_emits (state : SlashState) (c : Char) (cs : Text) :
    ∃ (d : Char) (next : SlashState),
      blankRegexpsFrom state (c :: cs) = d :: blankRegexpsFrom next cs ∧
      (d = ' ' ∨ d = c ∧ next = .outside ∧
        (c = '/' → closesRegexp cs = false)) := by
  cases state with
  | inside => exact ⟨' ', _, rfl, .inl rfl⟩
  | escaped => exact ⟨' ', _, rfl, .inl rfl⟩
  | outside | flags =>
      rw [blankRegexpsFrom]
      · split
        · exact ⟨' ', _, rfl, .inl rfl⟩
        · split
          · exact ⟨' ', _, rfl, .inl rfl⟩
          · next hslash =>
              refine ⟨c, _, rfl, .inr ⟨rfl, rfl, fun hc => ?_⟩⟩
              rw [← Bool.not_eq_true]
              exact fun hclosed => hslash ⟨hc, hclosed⟩
      · intro h; cases h
      · intro h; cases h

theorem dims_blankStringsFrom (state : QuoteState) (text : Text) :
    Dims (blankStringsFrom state text) text := by
  induction text generalizing state with
  | nil => cases state <;> exact .nil
  | cons c cs ih =>
      obtain ⟨d, next, hstep, hd⟩ := blankStringsFrom_emits state c cs
      rw [hstep]
      exact .cons (hd.elim .inr fun h => .inl h.1) (ih next)

theorem dims_blankRegexpsFrom (state : SlashState) (text : Text) :
    Dims (blankRegexpsFrom state text) text := by
  induction text generalizing state with
  | nil => cases state <;> exact .nil
  | cons c cs ih =>
      obtain ⟨d, next, hstep, hd⟩ := blankRegexpsFrom_emits state c cs
      rw [hstep]
      exact .cons (hd.elim .inr fun h => .inl h.1) (ih next)

theorem cutTail_isPrefix (text : Text) : cutTail text <+: text := by
  fun_induction cutTail text with
  | case1 => exact List.nil_prefix
  | case2 => exact List.nil_prefix
  | case3 c cs _ _ ih => exact List.cons_prefix_cons.mpr ⟨rfl, ih⟩
  | case4 => exact List.nil_prefix

theorem getElem?_of_dims {kept text : Text} (h : Dims kept text) {i : Nat}
    {c : Char} (hc : kept[i]? = some c) : text[i]? = some c ∨ c = ' ' := by
  induction h generalizing i with
  | nil => cases hc
  | cons hd _ ih =>
      cases i with
      | zero =>
          obtain rfl := Option.some.inj hc
          exact hd.imp_left fun h => congrArg some h.symm
      | succ i => exact ih hc

theorem count_le_of_dims {kept text : Text} {c : Char} (h : Dims kept text)
    (hc : c ≠ ' ') :
    kept.count c ≤ text.count c := by
  induction h with
  | nil => exact Nat.le_refl _
  | @cons d e ds es hd _ ih =>
      rw [List.count_cons, List.count_cons]
      rcases hd with rfl | rfl
      · omega
      · simp [Ne.symm hc]
        omega

theorem length_mask_le (text : Text) : (mask text).length ≤ text.length := by
  have hregexps :=
    (dims_blankRegexpsFrom .outside (cutTail (blankStrings text))).length_eq
  have hcut := (cutTail_isPrefix (blankStrings text)).length_le
  have hstrings := (dims_blankStringsFrom .outside text).length_eq
  rw [mask, blankRegexps]
  rw [blankStrings] at hcut hregexps ⊢
  omega

/-- Every character of a masked text is the one that was there or a blank. -/
theorem getElem?_mask {text : Text} {i : Nat} {c : Char}
    (h : (mask text)[i]? = some c) :
    text[i]? = some c ∨ c = ' ' := by
  rcases getElem?_of_dims (dims_blankRegexpsFrom .outside _)
    h with hcut | hblank
  · have hstrings : (blankStrings text)[i]? = some c := by
      obtain ⟨rest, hrest⟩ := cutTail_isPrefix (blankStrings text)
      rw [← hrest]
      exact List.getElem?_append_left (List.getElem?_eq_some_iff.mp
        hcut).1 ▸ hcut
    exact getElem?_of_dims (dims_blankStringsFrom .outside text) hstrings
  · exact .inr hblank

theorem count_blankStringsFrom (state : QuoteState) (text : Text) :
    (blankStringsFrom state text).count '"' ≤ 1 := by
  induction text generalizing state with
  | nil => cases state <;> exact Nat.zero_le _
  | cons c cs ih =>
      obtain ⟨d, next, hstep, hd⟩ := blankStringsFrom_emits state c cs
      rw [hstep, List.count_cons]
      by_cases hquote : d = '"'
      · obtain ⟨rfl, hlast⟩ := hd.resolve_left (by rw [hquote]; decide)
        have hle := count_le_of_dims (c := '"') (dims_blankStringsFrom next cs)
          (by decide)
        rw [List.count_eq_zero_of_not_mem (hlast hquote)] at hle
        simp [hquote]
        omega
      · simp [hquote, ih next]

theorem not_hasCut_cutTail (text : Text) : ¬ HasCut (cutTail text) := by
  fun_induction cutTail text with
  | case1 => decide
  | case2 => decide
  | case3 c cs hslash hdash ih =>
      have hfirst : ∀ d : Char, (cutTail cs).head? = some d →
          cs.head? = some d := by
        intro d hd
        rcases head?_cutTail cs with h | h
        · rw [h] at hd
          cases hd
        · rwa [← h]
      have hpair : ∀ a b : Char, [a, b] <:+: c :: cutTail cs →
        ¬ [a, b] <:+: cutTail cs →
          c = a ∧ cs.head? = some b := by
        intro a b h hlater
        obtain ⟨more, hmore⟩ := (List.infix_cons_iff.mp h).resolve_right hlater
        obtain ⟨rfl, hcs⟩ := List.cons.inj hmore
        exact ⟨rfl, hfirst b (by rw [← hcs]; rfl)⟩
      rw [HasCut, not_or] at ih
      intro h
      rcases h with h | h
      · obtain ⟨rfl, hhead⟩ := hpair _ _ h ih.1
        obtain ⟨more, rfl⟩ := List.head?_eq_some_iff.mp hhead
        exact hslash more rfl rfl
      · obtain ⟨rfl, hhead⟩ := hpair _ _ h ih.2
        obtain ⟨more, rfl⟩ := List.head?_eq_some_iff.mp hhead
        exact hdash more rfl rfl
  | case4 => decide

/-- Behind a slash that is not closed nothing is blanked that could close it. -/
theorem closesRegexp_blankRegexps {text : Text}
    (h : closesRegexp text = false) :
    closesRegexp (blankRegexpsFrom .outside text) = false := by
  fun_induction closesRegexp text with
  | case1 => rfl
  | case2 c cs ih =>
      have hback : blankRegexpsFrom .outside ('\\' :: c :: cs) =
          '\\' :: blankRegexpsFrom .outside (c :: cs) := by
        rw [blankRegexpsFrom_outside, if_neg (fun h => by cases h.1)]
      rw [hback]
      by_cases hbreak : c = '\n'
      · subst hbreak
        rw [blankRegexpsFrom_outside, if_neg (fun h => by cases h.1)]
        rfl
      · have hcs : closesRegexp cs = false := by simpa [hbreak] using h
        rw [blankRegexpsFrom_outside, hcs, if_neg (fun h => by cases h.2),
          closesRegexp, ih hcs, Bool.and_false]
  | case3 c cs hpair ih =>
      simp only [Bool.or_eq_false_iff, beq_eq_false_iff_ne] at h
      obtain ⟨hslash, hrest⟩ := h
      rw [blankRegexpsFrom_outside, if_neg (fun h => hslash h.1)]
      by_cases hback : c = '\\'
      · cases cs with
        | nil => rw [hback]; rfl
        | cons d ds => exact absurd rfl (hpair d ds hback)
      · have hcs : closesRegexp cs = false := by simpa [hback] using hrest
        rw [closesRegexp]
        · simp [hslash, ih hcs]
        · intro d ds h
          exact absurd h hback

theorem not_closes_blankRegexpsFrom {state : SlashState} {text cs : Text}
    (h : '/' :: cs <:+ blankRegexpsFrom state text) : closesRegexp cs =
      false := by
  induction text generalizing state with
  | nil => cases state <;> cases List.suffix_nil.mp h
  | cons c text ih =>
      obtain ⟨d, next, hstep, hd⟩ := blankRegexpsFrom_emits state c text
      rw [hstep] at h
      rcases List.suffix_cons_iff.mp h with hhead | hlater
      · obtain ⟨rfl, rfl⟩ := List.cons.inj hhead
        obtain ⟨hc, rfl, hopen⟩ := hd.resolve_left (by decide)
        exact closesRegexp_blankRegexps (hopen hc.symm)
      · exact ih hlater

theorem isMasked_mask (text : Text) : IsMasked (mask text) := by
  have hdims : Dims (mask text) (cutTail (blankStrings text)) :=
    dims_blankRegexpsFrom .outside _
  have hcut : ¬ HasCut (mask text) :=
    fun h => not_hasCut_cutTail _ (hasCut_of_dims hdims h)
  rw [HasCut, not_or] at hcut
  refine ⟨hcut.1, hcut.2, ?_,
    regexp_free_iff.mpr fun _ => not_closes_blankRegexpsFrom⟩
  calc (mask text).count '"'
      ≤ (cutTail (blankStrings text)).count '"' :=
        count_le_of_dims hdims (by decide)
    _ ≤ (blankStrings text).count '"' := (cutTail_isPrefix _).sublist.count_le _
    _ ≤ 1 := count_blankStringsFrom .outside text

theorem blankStrings_of_count {text : Text} (h : text.count '"' ≤ 1) :
    blankStrings text = text := by
  induction text with
  | nil => rfl
  | cons c cs ih =>
      rw [List.count_cons] at h
      have hopen : ¬ (c = '"' ∧ '"' ∈ cs) := by
        intro hquote
        have hpos := List.count_pos_iff.mpr hquote.2
        simp only [hquote.1, beq_self_eq_true, if_true] at h
        omega
      rw [blankStrings, blankStringsFrom_outer (by decide),
        if_neg (fun h => by cases h.1), if_neg hopen]
      exact congrArg (c :: ·) (ih (by omega))

theorem cutTail_of_not_hasCut {text : Text} (h : ¬ HasCut text) :
    cutTail text = text := by
  have hnil : cutTail (text ++ []) = text ++ cutTail [] :=
    cutTail_append h (fun _ => nofun) (fun _ => nofun)
  simpa [cutTail] using hnil

theorem blankRegexps_of_open {text : Text}
    (h : ∀ cs, '/' :: cs <:+ text → closesRegexp cs = false) :
    blankRegexps text = text := by
  induction text with
  | nil => rfl
  | cons c cs ih =>
      have hopen : ¬ (c = '/' ∧ closesRegexp cs = true) := by
        intro hslash
        have hcs := h cs (by rw [hslash.1])
        rw [hslash.2] at hcs
        cases hcs
      rw [blankRegexps, blankRegexpsFrom_outside, if_neg hopen]
      exact congrArg (c :: ·)
        (ih fun more hmore => h more (hmore.trans (List.suffix_cons c cs)))

theorem mask_of_isMasked {text : Text} (h : IsMasked text) :
    mask text = text := by
  have hcut : ¬ HasCut text := fun hcut => hcut.elim h.comment h.arrow
  rw [mask, blankStrings_of_count h.quotes, cutTail_of_not_hasCut hcut,
    blankRegexps_of_open (regexp_free_iff.mp h.regexps)]

theorem mask_eq_self_iff {text : Text} : mask text = text ↔ IsMasked text :=
  ⟨fun h => h ▸ isMasked_mask text, mask_of_isMasked⟩

instance (text : Text) : Decidable (IsMasked text) :=
  decidable_of_iff _ mask_eq_self_iff

/-- Masking keeps columns, leaves nothing to mask, and leaves alone what has
nothing to mask. So a second masking changes nothing. -/
theorem mask_projects (text : Text) :
    (mask text).length ≤ text.length ∧
    (∀ (i : Nat) (c : Char), (mask text)[i]? = some c →
      text[i]? = some c ∨ c = ' ') ∧
    IsMasked (mask text) ∧
    mask (mask text) = mask text ∧
    (mask text = text ↔ IsMasked text) :=
  ⟨length_mask_le text, fun _ _ => getElem?_mask, isMasked_mask text,
    mask_of_isMasked (isMasked_mask text), mask_eq_self_iff⟩

end GrammarLint.Body
