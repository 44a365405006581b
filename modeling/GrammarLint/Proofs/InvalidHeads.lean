import GrammarLint.Proofs.HeadGrammar
import GrammarLint.Proofs.QuotedText
import GrammarLint.Proofs.StringContents

/-!
# Which heads are called invalid

A line that is no definition gets an error if one unbroken piece of text stands
in front of its first colon. The two readers disagree about what a blank is. A
definition may have ASCII blanks around its head and no others; the search for
invalid heads takes every Unicode blank off. So a head that is spelled as it
should be is called invalid if a blank of the wider sort stands beside it, as in
a line that was pasted with a no-break space in front of the colon.

There is no other way. The piece in front of the colon is the same for both
readers (`FrontText.unique`), and if all blanks around it are ASCII, the first
reader accepts it exactly if it is a marker, a name and a priority.
-/

namespace GrammarLint

open Text (isBlank isSpace isWideBlank isWord)

/-- The head of a definition without the blanks around it: a marker, a name and
a priority. -/
def IsLegalHead (front : Text) : Prop :=
  ∃ marker name priority, front = marker ++ name ++ priority ∧
    marker ∈ [[], ['?'], ['!']] ∧
    (isTerminalName name || isRuleName name) = true ∧
    isPriority priority = true

theorem isWideBlank_of_isBlank {c : Char} (h : isBlank c = true) :
    isWideBlank c = false := by
  simp only [isBlank, Bool.or_eq_true, beq_iff_eq] at h
  rcases h with ((((rfl | rfl) | rfl) | rfl) | rfl) | rfl <;> rfl

/-- Among blanks, those that are ASCII are those that are not wide. -/
theorem all_isBlank_iff {t : Text} (h : t.all isSpace = true) :
    t.all isBlank = true ↔ t.any isWideBlank = false := by
  rw [List.all_eq_true] at h
  simp only [List.all_eq_true, List.any_eq_false, Bool.not_eq_true]
  refine forall₂_congr fun c hc => ⟨isWideBlank_of_isBlank, fun hwide => ?_⟩
  have hspace := h c hc
  rwa [isSpace, hwide, Bool.or_false] at hspace

/-- What stands in front of the first colon of a line: a piece of text without
blanks and colons, and blanks of any sort around it. -/
structure FrontText where
  indent : Text
  front : Text
  gap : Text
  indent_space : indent.all isSpace = true
  front_ne : front ≠ []
  front_solid : ∀ c ∈ front, (c != ':' && !isSpace c) = true
  gap_space : gap.all isSpace = true

namespace FrontText

/-- The characters in front of the colon. -/
def text (f : FrontText) : Text := f.indent ++ f.front ++ f.gap

/-- A blank beside the front is none of the ASCII blanks. -/
def hasWideBlank (f : FrontText) : Bool :=
  f.indent.any isWideBlank || f.gap.any isWideBlank

variable (f : FrontText) (rest : Text)

theorem text_append :
    f.text ++ ':' :: rest =
      f.indent ++ (f.front ++ (f.gap ++ ':' :: rest)) := by
  simp only [text, List.append_assoc]

theorem head?_front {p : Char → Bool} (hp : ∀ c, p c = true →
      (c != ':' && !isSpace c) = false)
    (rest : Text) : (f.front ++ rest).head?.any p = false := by
  obtain ⟨c, cs, hfront⟩ := List.exists_cons_of_ne_nil f.front_ne
  have hc := f.front_solid c (by rw [hfront]; exact List.mem_cons_self)
  rw [hfront, ← Bool.not_eq_true]
  intro hpc
  rw [hp c hpc] at hc
  cases hc

theorem dropWhile_isSpace :
    (f.text ++ ':' :: rest).dropWhile isSpace =
      f.front ++ (f.gap ++ ':' :: rest) := by
  rw [text_append]
  refine Text.dropWhile_append_of_stop (by simpa using f.indent_space)
    (f.head?_front ?_ _)
  intro c hc
  rw [hc, Bool.not_true, Bool.and_false]

theorem head?_gap :
    (f.gap ++ ':' :: rest).head?.any (fun c => c != ':' && !isSpace c) =
      false :=
  head?_append_any f.gap_space (fun c hc => by rw [hc, Bool.not_true,
    Bool.and_false]) rfl

theorem readInvalidHead?_text :
    readInvalidHead? (f.text ++ ':' :: rest) =
      some (f.front, f.indent.length) := by
  have htake := Text.takeWhile_append_of_stop f.front_solid (f.head?_gap rest)
  have hdrop := Text.dropWhile_append_of_stop f.front_solid (f.head?_gap rest)
  have hgap : (f.gap ++ ':' :: rest).dropWhile isSpace = ':' :: rest :=
    Text.dropWhile_append_of_stop (by simpa using f.gap_space) rfl
  obtain ⟨c, cs, hfront⟩ := List.exists_cons_of_ne_nil f.front_ne
  simp only [readInvalidHead?, f.dropWhile_isSpace rest, htake, hdrop, hgap]
  rw [hfront]
  refine congrArg some (Prod.ext rfl ?_)
  simp only [text_append, List.length_append, hfront]
  omega

/-- A line has one piece of text in front of its first colon. -/
theorem unique {f g : FrontText} {rest rest' : Text}
    (h : f.text ++ ':' :: rest = g.text ++ ':' :: rest') :
    f.indent = g.indent ∧ f.front = g.front ∧ f.gap = g.gap := by
  have hread := f.readInvalidHead?_text rest
  rw [h, g.readInvalidHead?_text, Option.some.injEq, Prod.mk.injEq] at hread
  rw [text_append, text_append] at h
  obtain ⟨hindent, h⟩ := List.append_inj h hread.2.symm
  rw [hread.1, List.append_cancel_left_eq] at h
  have hgap : ∀ (g : FrontText) (rest : Text),
      (g.gap ++ ':' :: rest).takeWhile isSpace = g.gap :=
    fun g rest => Text.takeWhile_append_of_stop (by simpa using g.gap_space) rfl
  exact ⟨hindent, hread.1.symm, by rw [← hgap f rest, h, hgap]⟩

end FrontText

theorem exists_front {text head : Text} {start : Nat}
    (h : readInvalidHead? text = some (head, start)) :
    ∃ (f : FrontText) (rest : Text), text = f.text ++ ':' :: rest ∧
      head = f.front ∧ start = f.indent.length := by
  have hread := h
  simp only [readInvalidHead?] at h
  split at h
  · next c cs body hfront hcolon =>
      let solid := fun c => c != ':' && !isSpace c
      let trimmed := text.dropWhile isSpace
      let f : FrontText :=
        { indent := text.takeWhile isSpace
          front := trimmed.takeWhile solid
          gap := (trimmed.dropWhile solid).takeWhile isSpace
          indent_space := List.all_takeWhile
          front_ne := by
            rw [hfront]
            exact List.cons_ne_nil c cs
          front_solid := fun c hc => List.mem_takeWhile_imp (p := solid) hc
          gap_space := List.all_takeWhile }
      have htext : text = f.text ++ ':' :: body := by
        rw [FrontText.text_append, ← hcolon, List.takeWhile_append_dropWhile,
          List.takeWhile_append_dropWhile, List.takeWhile_append_dropWhile]
      rw [htext, f.readInvalidHead?_text, Option.some.injEq,
        Prod.mk.injEq] at hread
      exact ⟨f, body, htext, hread.1.symm, hread.2.symm⟩
  · cases h

/-! ## Definitions among them

A definition has a piece of text in front of its colon too. Where all blanks
around it are ASCII, the reader of definitions accepts it exactly if it is a
legal head. -/

namespace HeadText

theorem notSpace_of_mem {h : HeadText} {c : Char}
    (hc : c ∈ h.marker ++ h.name ++ h.priority) :
    (c != ':' && !isSpace c) = true := by
  simp only [List.mem_append] at hc
  rcases hc with (hc | hc) | hc
  · have hmarker := h.marker_legal
    simp only [List.mem_cons, List.not_mem_nil, or_false] at hmarker
    rcases hmarker with hm | hm | hm <;> simp only [hm, List.not_mem_nil,
      List.mem_singleton] at hc
    · rw [hc]
      rfl
    · rw [hc]
      rfl
  · have hword := h.isRun_name.inside c hc
    have hne : c ≠ ':' := by
      intro heq
      subst heq
      exact absurd hword (by decide)
    rw [isSpace_of_isWord hword]
    simpa using hne
  · rcases mem_priority h.priority_legal hc with hdigit | rfl
    · have hword := isWord_of_isDigit hdigit
      have hne : c ≠ ':' := by
        intro heq
        subst heq
        exact absurd hdigit (by decide)
      rw [isSpace_of_isWord hword]
      simpa using hne
    · rfl

/-- A written head as a piece of text between blanks. -/
def frontText (h : HeadText) : FrontText where
  indent := h.indent
  front := h.marker ++ h.name ++ h.priority
  gap := h.gap
  indent_space := by
    rw [List.all_eq_true]
    exact fun c hc => Text.isSpace_of_isBlank
      (List.all_eq_true.mp h.indent_blank c hc)
  front_ne := by
    intro hnil
    simp only [List.append_eq_nil_iff] at hnil
    exact h.isRun_name.nonempty hnil.1.2
  front_solid := fun _ => notSpace_of_mem
  gap_space := by
    rw [List.all_eq_true]
    exact fun c hc => Text.isSpace_of_isBlank
      (List.all_eq_true.mp h.gap_blank c hc)

theorem text_frontText (h : HeadText) : h.frontText.text = h.text := by
  simp only [frontText, FrontText.text, text, List.append_assoc]

end HeadText

/-- A line opens a definition exactly if what stands in front of its first colon
is a legal head and all blanks around it are ASCII. -/
theorem Head.read?_front {f : FrontText} {rest : Text} :
    Head.read? (f.text ++ ':' :: rest) = none ↔
      (IsLegalHead f.front → f.hasWideBlank = true) := by
  have hwide : f.hasWideBlank = false ↔
      f.indent.all isBlank = true ∧ f.gap.all isBlank = true := by
    rw [FrontText.hasWideBlank, Bool.or_eq_false_iff,
      all_isBlank_iff f.indent_space, all_isBlank_iff f.gap_space]
  constructor
  · intro hnone hgiven
    obtain ⟨marker, name, priority, hfront, hmarker, hname, hpriority⟩ := hgiven
    rw [← Bool.not_eq_false, hwide]
    intro hgiven
    obtain ⟨hindent, hgap⟩ := hgiven
    let h : HeadText := ⟨_, marker, name, priority, _, hindent, hmarker, hname,
      hpriority, hgap⟩
    have htext : f.text = h.text := by
      simp only [h, FrontText.text, HeadText.text, hfront, List.append_assoc]
    rw [htext, h.read?_text] at hnone
    cases hnone
  · intro hlegal
    rw [Option.eq_none_iff_forall_ne_some]
    intro head hread
    obtain ⟨h, rest', htext, -⟩ := Head.exists_text hread
    rw [← h.text_frontText] at htext
    obtain ⟨hindent, hfront, hgap⟩ := FrontText.unique htext
    have hblank : f.hasWideBlank = false := by
      rw [hwide, hindent, hgap]
      exact ⟨h.indent_blank, h.gap_blank⟩
    rw [hlegal ⟨_, _, _, hfront, h.marker_legal, h.name_spelled,
      h.priority_legal⟩] at hblank
    cases hblank

theorem opensSkipped_front (f : FrontText) (rest : Text) :
    opensSkipped (f.front ++ (f.gap ++ ':' :: rest)) =
      opensSkipped f.front := by
  have hslash : (f.gap ++ ':' :: rest).head?.any (· == '/') = false := by
    refine head?_append_any f.gap_space (fun c hc => ?_) rfl
    rw [← Bool.not_eq_true, beq_iff_eq]
    intro heq
    subst heq
    cases hc
  match hfront : f.front with
  | [] => exact absurd hfront f.front_ne
  | [c] =>
      cases hgap : f.gap ++ ':' :: rest with
      | nil => rfl
      | cons d ds =>
          have hd : ('/' == d) = false := by
            rw [hgap, List.head?_cons, Option.any_some,
              beq_eq_false_iff_ne] at hslash
            exact beq_false_of_ne (Ne.symm hslash)
          simp [opensSkipped, List.isPrefixOf, hd]
  | c :: d :: cs => rfl

theorem classify_eq_invalidHead_iff {text head : Text} {start : Nat} :
    classify text = .invalidHead head start ↔
      opensSkipped (text.dropWhile isSpace) = false ∧ Head.read? text = none ∧
        readInvalidHead? text = some (head, start) := by
  constructor
  · intro h
    have hread := classify_readFrom text
    have hsearch := (classify_search text).1
    rw [h] at hread hsearch
    exact ⟨(Bool.not_eq_true' _).mp hsearch.symm, hread⟩
  · intro hgiven
    obtain ⟨hopen, hnone, hread⟩ := hgiven
    unfold classify
    split
    · next htrim =>
        rw [htrim] at hopen
        cases hopen
    · next htrim =>
        rw [htrim] at hopen
        cases hopen
    · rw [hnone, hread]

theorem classify_front_iff {text head : Text} {start : Nat} :
    classify text = .invalidHead head start ↔
      ∃ (f : FrontText) (rest : Text), text = f.text ++ ':' :: rest ∧
        head = f.front ∧ start = f.indent.length ∧
        opensSkipped f.front = false ∧
        (IsLegalHead f.front → f.hasWideBlank = true) := by
  rw [classify_eq_invalidHead_iff]
  constructor
  · intro h
    obtain ⟨hopen, hnone, hread⟩ := h
    obtain ⟨f, rest, rfl, rfl, rfl⟩ := exists_front hread
    rw [f.dropWhile_isSpace, opensSkipped_front] at hopen
    exact ⟨f, rest, rfl, rfl, rfl, hopen, Head.read?_front.mp hnone⟩
  · intro h
    obtain ⟨f, rest, rfl, rfl, rfl, hopen, hlegal⟩ := h
    rw [f.dropWhile_isSpace, opensSkipped_front]
    exact ⟨hopen, Head.read?_front.mpr hlegal, f.readInvalidHead?_text rest⟩

theorem invalidHead_of_mem_lineErrors {table : SymbolTable} {line : Nat}
    {text : Text} {d : Diagnostic} (h : d ∈ lineErrors table line text)
    (hd : d.isUndefined = false) :
    ∃ head start, classify text = .invalidHead head start ∧
      d = .invalidHead line start head := by
  have hundefined : ∀ {offset : Nat} {body : Text},
      d ∉ undefinedIn table line offset body := by
    intro offset body hmem
    rw [isUndefined_of_mem_undefinedIn hmem] at hd
    cases hd
  rw [lineErrors] at h
  split at h
  · exact absurd h hundefined
  · cases h
  · cases h
  · next head start hclass =>
      rcases List.mem_cons.mp h with rfl | h
      · exact ⟨head, start, hclass, rfl⟩
      · exact absurd h hundefined
  · exact absurd h hundefined

theorem head?_quoting {phrase : String} {c : Char} (name : Text)
    (h : phrase.toList.head? = some c) :
    (Diagnostic.quoting phrase name).toList.head? = some c := by
  simp [Diagnostic.quoting, h]

/-- The messages about invalid heads are the only ones with their first
letter. -/
theorem code_of_invalid_message {d : Diagnostic} {quoted name : Text}
    (hphrase : d.message = Diagnostic.quoting d.code.phrase quoted)
    (h : d.message = Diagnostic.quoting "Invalid definition name" name) :
    d.code = .invalidDefinitionName := by
  have hletter : d.message.toList.head? = some 'I' := by
    rw [h]
    exact head?_quoting name rfl
  rw [hphrase] at hletter
  cases hcode : d.code with
  | invalidDefinitionName => rfl
  | undefinedRule | undefinedTerminal | unusedSymbol =>
      rw [hcode, head?_quoting quoted (c := 'U') rfl] at hletter
      cases hletter

/-- A head is reported exactly if a line has it as its invalid head. -/
theorem exists_invalid_message_iff {lines : List Text} {name : Text} :
    (∃ d ∈ validate lines,
        d.message = Diagnostic.quoting "Invalid definition name" name) ↔
      ∃ text ∈ lines, ∃ start, classify text = .invalidHead name start := by
  constructor
  · intro h
    obtain ⟨d, hd, hmessage⟩ := h
    rw [validate_eq] at hd
    rcases List.mem_append.mp hd with hd | hd
    · obtain ⟨_, -, -, -, hphrase⟩ := findErrors_quotesText hd
      have hcode := code_of_invalid_message hphrase hmessage
      obtain ⟨⟨text, line⟩, hline, hd⟩ := List.mem_flatMap.mp hd
      obtain ⟨head, start, hclass, rfl⟩ :=
        invalidHead_of_mem_lineErrors hd
          (by rw [Diagnostic.isUndefined, hcode]; rfl)
      obtain rfl : head = name := quoting_injective hmessage
      rw [List.mk_mem_zipIdx_iff_getElem?] at hline
      exact ⟨text, List.mem_of_getElem? hline, start, hclass⟩
    · obtain ⟨r, -, rfl⟩ := List.mem_map.mp hd
      have hcode : Code.unusedSymbol = .invalidDefinitionName :=
        code_of_invalid_message rfl hmessage
      cases hcode
  · intro h
    obtain ⟨text, htext, start, hclass⟩ := h
    obtain ⟨line, hline⟩ := List.mem_iff_getElem?.mp htext
    refine ⟨.invalidHead line start name, ?_, rfl⟩
    rw [validate_eq, List.mem_append]
    refine .inl (List.mem_flatMap.mpr ⟨(text, line),
      List.mk_mem_zipIdx_iff_getElem?.mpr hline, ?_⟩)
    show _ ∈ lineErrors _ line text
    rw [lineErrors, hclass]
    exact List.mem_cons_self

/-- A line is said to have an invalid head exactly if a piece of text stands
in front of its first colon that opens no directive and no comment, and that
is no legal head or has a blank outside ASCII beside it. A check reports
exactly these heads. So a legal head is reported if such a blank stands
beside it, and only then. -/
theorem invalid_head_exact (name : Text) :
    (∀ (text : Text) (start : Nat), classify text = .invalidHead name start ↔
      ∃ (f : FrontText) (rest : Text), text = f.text ++ ':' :: rest ∧
        name = f.front ∧ start = f.indent.length ∧
        opensSkipped f.front = false ∧
        (IsLegalHead f.front → f.hasWideBlank = true)) ∧
    ∀ lines : List Text,
      (∃ d ∈ validate lines,
          d.message = Diagnostic.quoting "Invalid definition name" name) ↔
        ∃ (f : FrontText) (rest : Text), f.text ++ ':' :: rest ∈ lines ∧
          f.front = name ∧
          opensSkipped name = false ∧
          (IsLegalHead name → f.hasWideBlank = true) := by
  refine ⟨fun text start => classify_front_iff, fun lines => ?_⟩
  simp only [exists_invalid_message_iff, classify_front_iff]
  constructor
  · intro h
    obtain ⟨text, htext, start, f, rest, rfl, rfl, -, hopen, hlegal⟩ := h
    exact ⟨f, rest, htext, rfl, hopen, hlegal⟩
  · intro h
    obtain ⟨f, rest, htext, rfl, hopen, hlegal⟩ := h
    exact ⟨_, htext, _, f, rest, rfl, rfl, rfl, hopen, hlegal⟩

/-- A no-break space in front of the colon, and the rule `foo` is
called an invalid name. -/
theorem invalid_head_exact_wide :
    IsLegalHead ['f', 'o', 'o'] ∧
      ∃ d ∈ validate [['f', 'o', 'o', '\u00a0', ':', ' ', '"', 'x', '"']],
        d.message = Diagnostic.quoting "Invalid definition name" ['f', 'o',
          'o'] := by
  let f : FrontText :=
    ⟨[], ['f', 'o', 'o'], ['\u00a0'], rfl, by decide,
      List.all_eq_true.mp rfl, rfl⟩
  refine ⟨⟨[], ['f', 'o', 'o'], [], rfl, by decide, rfl, rfl⟩, ?_⟩
  exact ((invalid_head_exact _).2 _).mpr
    ⟨f, [' ', '"', 'x', '"'], List.mem_cons_self, rfl, rfl, fun _ => rfl⟩

end GrammarLint
