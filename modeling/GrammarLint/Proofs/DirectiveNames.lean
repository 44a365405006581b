import GrammarLint.Proofs.DirectiveText

/-!
# Whole names and cut names

The names that a directive binds are meant to be identifiers of the line, from
end to end. The alias of an import and the last name of its path are: an arrow,
a blank or a dot stands in front of them, and their readers go on as far as a
word goes. Two readers look at less than that.

A list is swept for identifiers without a look at the character in front, so a
word that opens with digits gives the rest of itself. A bare import takes the
first run of upper-case letters, digits and underscores, and such a run may
begin or end in the middle of a word, or open with a digit.

These are the only two ways. `EndsWord` and `BareName` say what the readers
find, and each name that is bound is one or the other.
-/

namespace GrammarLint

open Text (IsRun WordAt hasAt isBlank isIdentStart isWord)

/-- The character in front of a name. -/
def BoundName.before (text : Text) (b : BoundName) : Option Char :=
  (text.take b.start).getLast?

/-- The character behind a name. -/
def BoundName.behind (text : Text) (b : BoundName) : Option Char :=
  (text.drop (b.start + b.name.length)).head?

/-- The name is an identifier of the line, with no word character on either
side. -/
structure WholeName (text : Text) (b : BoundName) : Prop where
  shown : hasAt b.name text b.start = true
  identifier : isIdentifier b.name = true
  before : (b.before text).any isWord = false
  behind : (b.behind text).any isWord = false

/-- The name is an identifier, and with the digits in front of it a word of the
line. -/
def EndsWord (text : Text) (b : BoundName) (digits : Text) : Prop :=
  isIdentifier b.name = true ∧ digits.all Char.isDigit = true ∧
    ∃ column, column + digits.length = b.start ∧
      WordAt text column (digits ++ b.name)

/-- The name is a word of the line without the digits that the word opens
with. -/
def BehindDigits (text : Text) (b : BoundName) : Prop :=
  ∃ digits, digits ≠ [] ∧ EndsWord text b digits

/-- The name is the first run of upper-case letters, digits and
underscores behind an `%import`. -/
def BareName (text : Text) (b : BoundName) : Prop :=
  ∃ indent skipped rest,
    text = indent ++ Directive.importKeyword ++ skipped ++ b.name ++ rest ∧
      (indent ++ Directive.importKeyword ++ skipped).length = b.start ∧
      indent.all isBlank = true ∧ skipped.any Directive.isBareName = false ∧
      b.name ≠ [] ∧ b.name.all Directive.isBareName = true ∧
      rest.head?.any Directive.isBareName = false

/-- The name is such a run, and it opens with a digit or a lower-case letter
adjoins it. -/
def CutOut (text : Text) (b : BoundName) : Prop :=
  BareName text b ∧
    (b.name.head?.any Char.isDigit = true ∨
      (b.before text).any Char.isLower = true ∨
      (b.behind text).any Char.isLower = true)

section

variable {text front rest : Text} {b : BoundName}

theorem before_eq (htext : text = front ++ b.name ++ rest)
    (hstart : front.length = b.start) :
    b.before text = front.getLast? := by
  rw [BoundName.before, htext, List.append_assoc, ← hstart, List.take_left]

theorem behind_eq (htext : text = front ++ b.name ++ rest)
    (hstart : front.length = b.start) :
    b.behind text = rest.head? := by
  rw [BoundName.behind, htext, ← hstart, ← List.length_append, List.drop_left]

theorem not_any_isWord {o : Option Char} {p : Char → Bool}
    (hp : ∀ c, p c = true → isWord c = true) (h : o.any isWord = false) :
    o.any p = false := by
  cases o with
  | none => rfl
  | some c =>
      rw [Option.any_some, ← Bool.not_eq_true] at h ⊢
      exact fun hc => h (hp c hc)

theorem isWord_of_isLower {c : Char} (h : c.isLower = true) : isWord c = true :=
  isWord_iff.mpr (.inr (.inl h))

/-- A word character that is in no bare name is a lower-case letter. -/
theorem isLower_of_isWord {c : Char} (hword : isWord c = true)
    (hbare : Directive.isBareName c = false) : c.isLower = true := by
  simp only [Directive.isBareName, Bool.or_eq_false_iff,
    beq_eq_false_iff_ne] at hbare
  rcases isWord_iff.mp hword with h | h | h | h
  · rw [hbare.1.1] at h
    cases h
  · exact h
  · rw [hbare.1.2] at h
    cases h
  · exact absurd h hbare.2

theorem not_isLower_of_isDigit {c : Char} (h : c.isDigit = true) :
    c.isLower = false := by
  rw [← Bool.not_eq_true]
  intro hlower
  have := toNat_of_isDigit h
  have := toNat_of_isLower hlower
  omega

/-- The word characters next to a bare name are lower-case letters. -/
theorem not_any_isWord_of_bare {o : Option Char}
    (hbare : o.any Directive.isBareName = false)
    (hlower : ¬ o.any Char.isLower = true) : o.any isWord = false := by
  cases o with
  | none => rfl
  | some c =>
      rw [Option.any_some, ← Bool.not_eq_true]
      exact fun hword => hlower (isLower_of_isWord hword hbare)

theorem WholeName.not_cutOut (h : WholeName text b) : ¬ CutOut text b := by
  intro hcutOut
  obtain ⟨-, hcut⟩ := hcutOut
  rw [(isIdentifier_iff.mp h.identifier).2,
    not_any_isWord (fun _ => isWord_of_isLower) h.before,
    not_any_isWord (fun _ => isWord_of_isLower) h.behind] at hcut
  simp at hcut

namespace EndsWord

variable {digits : Text}

theorem wholeName (h : EndsWord text b []) : WholeName text b := by
  obtain ⟨hname, -, column, hcolumn, before, after, htext, hbefore, -, hleft,
    hright⟩ := h
  rw [List.nil_append] at htext
  have hstart : before.length = b.start := hbefore.trans hcolumn
  refine ⟨Text.hasAt_iff.mpr ⟨before, after, htext, hstart⟩, hname, ?_, ?_⟩
  · rwa [before_eq htext hstart]
  · rwa [behind_eq htext hstart]

theorem neighbours (h : EndsWord text b digits) (hne : digits ≠ []) :
    (b.before text).any Char.isDigit = true ∧
    (b.behind text).any isWord = false := by
  obtain ⟨-, hdigits, column, hcolumn, front, after, htext, hfront, -, -,
    hright⟩ := h
  rw [← List.append_assoc] at htext
  have hstart : (front ++ digits).length = b.start := by
    rw [List.length_append, hfront, hcolumn]
  refine ⟨?_, by rwa [behind_eq htext hstart]⟩
  rw [before_eq htext hstart, List.getLast?_append,
    List.getLast?_eq_some_getLast hne, Option.some_or]
  exact List.all_eq_true.mp hdigits _ (List.getLast_mem hne)

theorem not_cutOut (h : EndsWord text b digits) : ¬ CutOut text b := by
  by_cases hne : digits = []
  · rw [hne] at h
    exact h.wholeName.not_cutOut
  · intro hcutOut
    obtain ⟨-, hcut⟩ := hcutOut
    obtain ⟨hdigit, hbehind⟩ := h.neighbours hne
    rw [(isIdentifier_iff.mp h.1).2,
      not_any_isWord (fun _ => isWord_of_isLower) hbehind] at hcut
    cases hbefore : b.before text with
    | none => simp [hbefore] at hdigit
    | some c =>
        rw [hbefore] at hdigit hcut
        rw [Option.any_some, not_isLower_of_isDigit hdigit] at hcut
        simp at hcut

end EndsWord

theorem WholeName.not_behindDigits (h : WholeName text b) :
    ¬ BehindDigits text b := by
  intro hbehind
  obtain ⟨digits, hne, hends⟩ := hbehind
  have hdigit := (hends.neighbours hne).1
  rw [not_any_isWord (fun _ => isWord_of_isDigit) h.before] at hdigit
  cases hdigit

end

/-- A word of a part is a word of the line, unless it runs on over an edge of
the part. -/
theorem Text.WordAt.embed {front part back word : Text} {column : Nat}
    (h : WordAt part column word) (hfront : front.getLast?.any isWord = false ∨
      part.head?.any isWord = false) (hback : back.head?.any isWord = false) :
    WordAt (front ++ part ++ back) (front.length + column) word := by
  obtain ⟨before, after, rfl, rfl, hrun, hleft, hright⟩ := h
  refine ⟨front ++ before, after ++ back, by simp only [List.append_assoc],
    List.length_append, hrun, ?_, ?_⟩
  · cases before with
    | nil =>
        rw [List.append_nil]
        refine hfront.resolve_right ?_
        rw [List.nil_append, head?_run hrun]
        exact Bool.noConfusion
    | cons c cs =>
        rw [List.getLast?_append,
          List.getLast?_eq_some_getLast (List.cons_ne_nil c cs), Option.some_or,
          ← List.getLast?_eq_some_getLast]
        exact hleft
  · cases after with
    | nil => exact hback
    | cons c cs => exact hright

theorem exists_beforeComment (t : Text) :
    ∃ back, t = Text.beforeComment t ++ back ∧
      back.head?.any isWord = false := by
  fun_induction Text.beforeComment t with
  | case1 rest => exact ⟨'/' :: '/' :: rest, rfl, rfl⟩
  | case2 c cs _ ih =>
      obtain ⟨back, hback, hstop⟩ := ih
      exact ⟨back, by rw [List.cons_append, ← hback], hstop⟩
  | case3 => exact ⟨[], rfl, rfl⟩

theorem head?_dropWhile_ne {stop : Char} (hstop : isWord stop = false)
    (t : Text) :
    (t.dropWhile (· != stop)).head?.any isWord = false := by
  have hhead := Text.head?_dropWhile_any (· != stop) t
  cases hrest : (t.dropWhile (· != stop)).head? with
  | none => rfl
  | some c =>
      rw [hrest, Option.any_some, bne_eq_false_iff_eq] at hhead
      rw [hhead]
      exact hstop

namespace Directive

/-- A name of a list is a word of the list without its leading digits. -/
theorem wordAt_of_mem_namesIn {offset : Nat} {list : Text} {b : BoundName}
    (hb : b ∈ namesIn offset list) :
    isIdentifier b.name = true ∧
    ∃ column digits, digits.all Char.isDigit = true ∧
      offset + (column + digits.length) = b.start ∧
      WordAt list column (digits ++ b.name) := by
  rw [namesIn_eq] at hb
  obtain ⟨found, hfound, rfl⟩ := List.mem_map.mp hb
  obtain ⟨word, hword, hidentifier⟩ := List.mem_filterMap.mp hfound
  have hwordAt : WordAt (Text.beforeComment list) word.1 word.2 :=
    Text.mem_words.mp hword
  rw [identifierIn] at hidentifier
  split at hidentifier
  · cases hidentifier
  · next hne =>
      rw [List.isEmpty_iff] at hne
      obtain rfl := Option.some.inj hidentifier
      refine ⟨isIdentifier_dropWhile hwordAt.run.inside hne, word.1,
        word.2.takeWhile Char.isDigit, List.all_takeWhile, rfl, ?_⟩
      obtain ⟨back, hback, hstop⟩ := exists_beforeComment list
      have hembed :=
        hwordAt.embed (.inl rfl : ([] : Text).getLast?.any isWord = false ∨
          _) hstop
      rw [List.nil_append, ← hback, List.length_nil, Nat.zero_add] at hembed
      rw [List.takeWhile_append_dropWhile]
      exact hembed

/-- The names of a list inside the line. -/
theorem endsWord_of_mem_namesIn {text front list back : Text}
    (htext : text = front ++ list ++ back)
    (hfront : front.getLast?.any isWord = false ∨ list.head?.any isWord = false)
    (hback : back.head?.any isWord = false) {b : BoundName}
    (hb : b ∈ namesIn front.length list) :
    front.length ≤ b.start ∧ ∃ digits, EndsWord text b digits := by
  obtain ⟨hname, column, digits, hdigits, hstart, hword⟩ :=
    wordAt_of_mem_namesIn hb
  refine ⟨by omega, digits, hname, hdigits, front.length + column, by omega, ?_⟩
  rw [htext]
  exact hword.embed hfront hback

theorem readDeclare?_endsWord {text : Text} {names : List BoundName}
    (h : readDeclare? text = some names) {b : BoundName} (hb : b ∈ names) :
    ∃ digits, EndsWord text b digits := by
  rw [readDeclare?] at h
  split at h
  · cases h
  · next rest hrest =>
      obtain ⟨front, htext⟩ :=
        (suffix_of_isPrefixOf? hrest).trans (List.dropWhile_suffix isBlank)
      have hoffset : text.length - rest.length = front.length := by
        rw [← htext, List.length_append, Nat.add_sub_cancel]
      have hlist :
          text = front ++ rest.takeWhile (· != '\n') ++ rest.dropWhile
            (· != '\n') := by
        rw [List.append_assoc, List.takeWhile_append_dropWhile, htext]
      split at h
      · cases h
      · next hword =>
          have hopen : (rest.takeWhile (· != '\n')).head?.any isWord =
              false := by
            cases rest with
            | nil => rfl
            | cons c cs =>
                rw [List.takeWhile_cons]
                split
                · exact Bool.not_eq_true _ ▸ hword
                · rfl
          have hends := fun hmem =>
            (endsWord_of_mem_namesIn (b := b) hlist (.inr hopen)
              (head?_dropWhile_ne rfl rest)
              hmem).2
          rw [hoffset] at h
          dsimp only at h
          split at h
          · obtain rfl := Option.some.inj h
            exact hends hb
          · obtain rfl := Option.some.inj h
            exact hends hb
          · cases h

/-! ## The names of an import

An alias and the last name of a path are whole words. Only between parentheses a
name may stand behind digits, because a list is swept there. -/

/-- The name ends a word of the line, and it is the whole word unless a
parenthesis has been opened before it. -/
def Imported (text : Text) (b : BoundName) : Prop :=
  ∃ digits, EndsWord text b digits ∧ (digits = [] ∨ '(' ∈ text.take b.start)

theorem imported_of_wordAt {text : Text} {b : BoundName}
    (hname : isIdentifier b.name = true) (hword : WordAt text b.start b.name) :
    Imported text b :=
  ⟨[], ⟨hname, rfl, b.start, rfl, hword⟩, .inl rfl⟩

theorem readIdentifier?_whole {t name : Text}
    (h : readIdentifier? t = some name) :
    isIdentifier name = true ∧ t = name ++ t.dropWhile isWord := by
  cases t with
  | nil => cases h
  | cons c cs =>
      rw [readIdentifier?_cons] at h
      split at h
      · next hc =>
          obtain rfl := Option.some.inj h
          refine ⟨?_, List.takeWhile_append_dropWhile.symm⟩
          rw [List.takeWhile_cons_of_pos (isWord_of_isIdentStart hc),
            isIdentifier, hc, Bool.true_and, List.all_takeWhile]
      · cases h

theorem readClause?_imported {text clause : Text} {names : List BoundName}
    (hsuffix : clause <:+ text)
    (h : readClause? text.length clause = some names) {b : BoundName}
    (hb : b ∈ names) : Imported text b := by
  obtain ⟨front, htext⟩ := hsuffix
  unfold readClause? at h
  split at h
  · next cs =>
      obtain ⟨name, hname, rfl⟩ := Option.map_eq_some_iff.mp h
      obtain rfl := List.mem_singleton.mp hb
      obtain ⟨hidentifier, hrest⟩ := readIdentifier?_whole hname
      have hsplit :
          text = front ++ ['-', '>'] ++ cs.takeWhile isBlank ++ name ++
          (cs.dropWhile isBlank).dropWhile isWord := by
        rw [List.append_assoc _ name, ← hrest, List.append_assoc,
          List.takeWhile_append_dropWhile, ← htext, List.append_assoc]
        rfl
      have hlength := congrArg List.length hsplit
      have hdrop := congrArg List.length hrest
      refine imported_of_wordAt hidentifier ⟨_, _, hsplit, ?_,
        isRun_of_isIdentifier hidentifier, ?_,
        Text.head?_dropWhile_any isWord _⟩
      · show _ = text.length - (cs.dropWhile isBlank).length
        simp only [List.length_append] at hlength hdrop ⊢
        omega
      · rw [List.getLast?_append]
        cases hblank : (cs.takeWhile isBlank).getLast? with
        | none => rw [Option.none_or, List.getLast?_append]; rfl
        | some c =>
            exact isWord_of_isBlank
              (List.mem_takeWhile_imp (List.mem_of_getLast? hblank))
  · next cs =>
      split at h
      · obtain rfl := Option.some.inj h
        have hsplit : text = front ++ ['('] ++ cs.takeWhile (· != ')') ++
            cs.dropWhile (· != ')') := by
          rw [List.append_assoc, List.takeWhile_append_dropWhile, ← htext,
            List.append_assoc]
          rfl
        have hoffset : text.length - cs.length = (front ++ ['(']).length := by
          rw [← htext]
          simp only [List.length_append, List.length_cons, List.length_nil]
          omega
        have hopen : (front ++ ['(']).getLast?.any isWord = false := by
          rw [List.getLast?_append]
          rfl
        rw [hoffset] at hb
        obtain ⟨hstart, digits, hends⟩ :=
          endsWord_of_mem_namesIn hsplit (.inl hopen)
            (head?_dropWhile_ne rfl cs) hb
        refine ⟨digits, hends, .inr ?_⟩
        rw [hsplit, List.append_assoc, List.take_append,
          List.take_of_length_le hstart]
        simp
      · cases h
  · cases h

theorem head?_takeSegments (t : Text) :
    (t.drop (takeSegments t).length).head?.any isWord = false := by
  induction t with
  | nil => rfl
  | cons c cs ih =>
      rw [takeSegments]
      split
      · exact ih
      · next hc =>
          rw [Bool.or_eq_true, not_or, Bool.not_eq_true] at hc
          exact hc.1

theorem exists_lastSegment {segments : Text} (h : '.' ∈ segments) :
    ∃ init, segments = init ++ ['.'] ++ lastSegment segments := by
  obtain ⟨last, init, hsplit, hlast⟩ :=
    List.eq_append_cons_of_mem (List.mem_reverse.mpr h)
  have hsegments : segments = init.reverse ++ '.' :: last.reverse := by
    rw [← List.reverse_reverse segments, hsplit, List.reverse_append,
      List.reverse_cons, List.append_assoc]
    rfl
  refine ⟨init.reverse, ?_⟩
  rw [hsegments,
    lastSegment_append (fun hmem => hlast (List.mem_reverse.mp hmem)),
    List.append_assoc]
  rfl

theorem isIdentifier_lastSegment {path : Text}
    (hopen : (lastSegment (takeSegments path)).head?.any isIdentStart = true) :
    isIdentifier (lastSegment (takeSegments path)) = true := by
  have hword : ∀ c ∈ lastSegment (takeSegments path), isWord c = true :=
    fun c hc =>
    isWord_of_mem_takeSegments ((lastSegment_suffix _).subset hc)
      (ne_dot_of_mem_lastSegment hc)
  cases hlast : lastSegment (takeSegments path) with
  | nil => simp [hlast] at hopen
  | cons c cs =>
      rw [hlast] at hopen hword
      rw [isIdentifier, Bool.and_eq_true, List.all_eq_true]
      exact ⟨hopen, fun d hd => hword d (List.mem_cons_of_mem c hd)⟩

theorem pathName_imported {text front path after : Text}
    (htext : text = front ++ takeSegments path ++ after)
    (hstop : after.head?.any isWord = false) {b : BoundName}
    (hb : b ∈ pathName (takeSegments path) (text.length - after.length)) :
    Imported text b := by
  unfold pathName at hb
  dsimp only at hb
  split at hb
  · next hcond =>
      rw [Bool.and_eq_true, List.contains_iff_mem] at hcond
      obtain rfl := List.mem_singleton.mp hb
      have hname := isIdentifier_lastSegment hcond.2
      obtain ⟨init, hinit⟩ := exists_lastSegment hcond.1
      have hsplit : text =
          front ++ init ++ ['.'] ++ lastSegment (takeSegments path) ++
          after := by
        rw [List.append_assoc front, List.append_assoc front, ← hinit, htext]
      have hlength := congrArg List.length hsplit
      refine imported_of_wordAt hname
        ⟨_, _, hsplit, ?_, isRun_of_isIdentifier hname, ?_, hstop⟩
      · show _ = text.length - after.length - (lastSegment
          (takeSegments path)).length
        simp only [List.length_append] at hlength ⊢
        omega
      · rw [List.getLast?_append]
        rfl
  · cases hb

theorem readImport?_imported {text : Text} {names : List BoundName}
    (h : readImport? text = some names) {b : BoundName} (hb : b ∈ names) :
    Imported text b := by
  rw [readImport?] at h
  split at h
  · cases h
  · next rest hrest =>
      dsimp only at h
      have hdotless : (rest.dropWhile isBlank).dropWhile (· == '.') <:+ text :=
        (List.dropWhile_suffix _).trans ((List.dropWhile_suffix _).trans
          ((suffix_of_isPrefixOf? hrest).trans (List.dropWhile_suffix isBlank)))
      generalize (rest.dropWhile isBlank).dropWhile (· == '.') =
        dotless at h hdotless
      split at h
      · split at h
        · next found hfound =>
            obtain rfl := Option.some.inj h
            exact readClause?_imported ((List.dropWhile_suffix _).trans
              ((List.drop_suffix _ _).trans hdotless)) hfound hb
        · obtain rfl := Option.some.inj h
          obtain ⟨front, htext⟩ := hdotless
          have hsplit : text = front ++ takeSegments dotless ++
              dotless.drop (takeSegments dotless).length := by
            rw [List.append_assoc,
              List.prefix_iff_eq_append.mp (takeSegments_isPrefix dotless),
              htext]
          exact pathName_imported hsplit (head?_takeSegments dotless) hb
      · cases h

theorem readBareImport?_bareName {text : Text} {b : BoundName}
    (h : readBareImport? text = some b) : BareName text b := by
  rw [readBareImport?] at h
  split at h
  · cases h
  · next rest hrest =>
      dsimp only at h
      split at h
      · cases h
      · next hne =>
          obtain rfl := Option.some.inj h
          have hkeyword := List.isPrefixOf?_eq_some_iff_append_eq.mp hrest
          have hsplit : text = text.takeWhile isBlank ++ importKeyword ++
              rest.takeWhile (fun c => !isBareName c) ++
              (rest.dropWhile (fun c => !isBareName c)).takeWhile isBareName ++
              (rest.dropWhile (fun c => !isBareName c)).dropWhile
              isBareName := by
            rw [List.append_assoc _ (List.takeWhile isBareName _),
              List.takeWhile_append_dropWhile, List.append_assoc,
              List.takeWhile_append_dropWhile, List.append_assoc, hkeyword,
              List.takeWhile_append_dropWhile]
          have hlength := congrArg List.length hsplit
          have hrun := congrArg List.length (List.takeWhile_append_dropWhile
            (p := isBareName) (l := rest.dropWhile (fun c => !isBareName c)))
          refine ⟨_, _, _, hsplit, ?_, List.all_takeWhile, List.any_eq_false.mpr
            fun c hc => ?_,
            fun hnil => hne (List.isEmpty_iff.mpr hnil), List.all_takeWhile,
            Text.head?_dropWhile_any isBareName _⟩
          · show _ = text.length - (rest.dropWhile
              (fun c => !isBareName c)).length
            simp only [List.length_append] at hlength hrun ⊢
            omega
          · have hbare := List.mem_takeWhile_imp hc
            rwa [Bool.not_eq_true', ← Bool.not_eq_true] at hbare

/-- A name that is bound ends a word of the line, or it is the only one and a
bare name. Only in a list may the word have more in front of the name. -/
theorem read?_cases {text : Text} {d : Directive} (h : read? text = some d)
    {b : BoundName} (hb : b ∈ d.names) :
    (∃ digits, EndsWord text b digits ∧
        (digits = [] ∨ d.kind = .declares ∨ '(' ∈ text.take b.start)) ∨
      d = ⟨.imports, [b]⟩ ∧ BareName text b := by
  rw [read?] at h
  split at h
  · cases h
  · next names _ hdeclare =>
      obtain rfl := Option.some.inj h
      obtain ⟨digits, hends⟩ := readDeclare?_endsWord hdeclare hb
      exact .inl ⟨digits, hends, .inr (.inl rfl)⟩
  · split at h
    · next name names himport =>
        obtain rfl := Option.some.inj h
        obtain ⟨digits, hends, hlist⟩ := readImport?_imported himport hb
        exact .inl ⟨digits, hends, hlist.imp_right .inr⟩
    · obtain ⟨found, hfound, rfl⟩ := Option.map_eq_some_iff.mp h
      obtain rfl := List.mem_singleton.mp hb
      exact .inr ⟨rfl, readBareImport?_bareName hfound⟩

end Directive

namespace BareName

variable {text : Text} {b : BoundName} (h : BareName text b)

include h

theorem neighbours :
    (b.before text).any Directive.isBareName = false ∧
      (b.behind text).any Directive.isBareName = false := by
  obtain ⟨indent, skipped, rest, htext, hstart, -, hskipped, -, -, hrest⟩ := h
  refine ⟨?_, by rwa [behind_eq htext hstart]⟩
  rw [before_eq htext hstart, List.getLast?_append]
  cases hlast : skipped.getLast? with
  | none => rw [Option.none_or, List.getLast?_append]; rfl
  | some c => exact Bool.eq_false_iff.mpr (List.any_eq_false.mp hskipped c
      (List.mem_of_getLast? hlast))

theorem not_behindDigits : ¬ BehindDigits text b := by
  intro hbehind
  obtain ⟨digits, hne, hends⟩ := hbehind
  have hdigit := (hends.neighbours hne).1
  have hbare := h.neighbours.1
  cases hbefore : b.before text with
  | none => simp [hbefore] at hdigit
  | some c =>
      rw [hbefore, Option.any_some] at hdigit hbare
      rw [Directive.isBareName, hdigit, Bool.or_true] at hbare
      cases hbare

theorem wholeName (hcut : ¬ CutOut text b) : WholeName text b := by
  have hsides := h.neighbours
  obtain ⟨indent, skipped, rest, htext, hstart, -, -, hne, hname, -⟩ := id h
  have hrun : IsRun b.name :=
    ⟨hne, fun c hc => isWord_of_isBareName (List.all_eq_true.mp hname c hc)⟩
  have hopen : b.name.head?.any Char.isDigit = false := by
    rw [← Bool.not_eq_true]
    exact fun hc => hcut ⟨h, .inl hc⟩
  refine ⟨Text.hasAt_iff.mpr ⟨_, _, htext, hstart⟩,
    isIdentifier_iff.mpr ⟨hrun, hopen⟩, not_any_isWord_of_bare hsides.1
      fun hc => hcut ⟨h, .inr (.inl hc)⟩,
    not_any_isWord_of_bare hsides.2 fun hc => hcut ⟨h, .inr (.inr hc)⟩⟩

end BareName

/-- Lower-case letters, digits and underscores. -/
def isSmall (c : Char) : Bool := c.isLower || c.isDigit || c == '_'

/-- A module path in lower case that is a single segment, behind leading
dots. -/
structure BarePath where
  dots : Text
  segment : Text
  dots_legal : dots.all (· == '.') = true
  segment_ne : segment ≠ []
  segment_legal : segment.all isSmall = true

theorem isWord_of_isSmall {c : Char} (h : isSmall c = true) :
    isWord c = true := by
  simp only [isSmall, Bool.or_eq_true, beq_iff_eq] at h
  rcases h with (h | h) | h
  · exact isWord_of_isLower h
  · exact isWord_of_isDigit h
  · exact isWord_iff.mpr (.inr (.inr (.inr h)))

theorem not_isBareName_of_isLower {c : Char} (h : c.isLower = true) :
    Directive.isBareName c = false := by
  have hlower := toNat_of_isLower h
  rw [← Bool.not_eq_true]
  simp only [Directive.isBareName, Bool.or_eq_true, beq_iff_eq]
  intro hcases
  rcases hcases with (hupper | hdigit) | rfl
  · have := toNat_of_isUpper hupper
    omega
  · have := toNat_of_isDigit hdigit
    omega
  · cases h

theorem not_isBareName_of_isBlank {c : Char} (h : isBlank c = true) :
    Directive.isBareName c = false := by
  rw [← Bool.not_eq_true]
  intro hbare
  rw [isBlank_of_isWord (isWord_of_isBareName hbare)] at h
  cases h

theorem isBareName_of_isSmall {c : Char} (h : isSmall c = true)
    (hlower : c.isLower = false) :
    Directive.isBareName c = true := by
  rw [isSmall, hlower, Bool.false_or] at h
  rw [Directive.isBareName, Bool.or_assoc, h, Bool.or_true]

namespace BarePath

variable (p : BarePath)

/-- The characters of a bare path. -/
def text : Text := p.dots ++ p.segment

def modulePath : ModulePath where
  dots := p.dots
  first := p.segment
  more := []
  dots_legal := p.dots_legal
  first_legal := by
    have hlegal := List.all_eq_true.mp p.segment_legal
    rw [isSegment, List.all_eq_true.mpr fun c hc => isWord_of_isSmall
      (hlegal c hc),
      Bool.and_true, Bool.not_eq_true', List.isEmpty_eq_false_iff]
    exact p.segment_ne
  more_legal := rfl

theorem segments_modulePath : p.modulePath.segments = p.segment :=
  List.append_nil _

theorem text_modulePath : p.modulePath.text = p.text := by
  rw [ModulePath.text, segments_modulePath]
  rfl

theorem pathName_segment (stop : Nat) :
    Directive.pathName p.segment stop = [] := by
  have hdot : '.' ∉ p.segment := fun h =>
    absurd (List.all_eq_true.mp p.segment_legal '.' h) (by decide)
  rw [Directive.pathName, if_neg]
  simp [hdot]

/-- Behind its leading letters the segment goes on with a bare name. -/
theorem head?_dropWhile :
    (p.segment.dropWhile Char.isLower).head?.any
      (fun c => !Directive.isBareName c) = false := by
  have hstop := Text.head?_dropWhile_any Char.isLower p.segment
  have hsub := (List.dropWhile_sublist (l := p.segment) Char.isLower).subset
  cases hrest : p.segment.dropWhile Char.isLower with
  | nil => rfl
  | cons c cs =>
      rw [hrest] at hstop hsub
      have hsmall :=
        List.all_eq_true.mp p.segment_legal c (hsub List.mem_cons_self)
      rw [List.head?_cons, Option.any_some, isBareName_of_isSmall hsmall hstop]
      rfl

end BarePath

namespace Directive

theorem readBareImport?_skip (indent : Blanks) {skipped run : Text}
    (hskipped : ∀ c ∈ skipped, isBareName c = false)
    (hrun : run.head?.any (fun c => !isBareName c) = false) :
    readBareImport? (indent.text ++ (importKeyword ++ (skipped ++ run))) =
      if (run.takeWhile isBareName).isEmpty then none
      else some ⟨run.takeWhile isBareName,
        indent.text.length + importKeyword.length + skipped.length⟩ := by
  have hkeyword :
      importKeyword.isPrefixOf? (importKeyword ++ (skipped ++ run)) =
        some (skipped ++ run) := List.isPrefixOf?_eq_some_iff_append_eq.mpr rfl
  have hdrop : (skipped ++ run).dropWhile (fun c => !isBareName c) = run :=
    Text.dropWhile_append_of_stop (fun c hc => by rw [hskipped c hc]; rfl) hrun
  rw [readBareImport?, dropWhile_indent indent rfl, hkeyword]
  dsimp only
  rw [hdrop]
  split
  · rfl
  · refine congrArg (fun n => some (BoundName.mk (run.takeWhile isBareName) n))
      ?_
    simp only [List.length_append]
    omega

/-- An import of a bare path binds the first run of digits and underscores of
its segment, and nothing if there is none. -/
theorem read?_barePath (indent : Blanks) {gap : Blanks} (hgap : gap.text ≠ [])
    (p : BarePath) :
    read? (indent.text ++ (importKeyword ++ (gap.text ++ p.text))) =
      if p.segment.all Char.isLower then none
      else some ⟨.imports,
          [⟨(p.segment.dropWhile Char.isLower).takeWhile isBareName,
            indent.text.length + importKeyword.length + gap.text.length +
            p.dots.length +
          (p.segment.takeWhile Char.isLower).length⟩]⟩ := by
  have himport := readImport?_path indent p.modulePath hgap
    (rfl : ([] : Text).head?.any (fun c => isWord c || c == '.') = false)
  rw [List.append_nil, p.text_modulePath, p.segments_modulePath,
    p.pathName_segment] at himport
  have hread : read? (indent.text ++ (importKeyword ++ (gap.text ++ p.text))) =
      (readBareImport?
          (indent.text ++ (importKeyword ++ (gap.text ++ p.text)))).map
        fun name => ⟨.imports, [name]⟩ := by
    rw [read?, readDeclare?_import, himport]
    rfl
  have hsplit : gap.text ++ p.text =
    gap.text ++ p.dots ++ p.segment.takeWhile Char.isLower ++
      p.segment.dropWhile Char.isLower := by
    rw [List.append_assoc _ (List.takeWhile _ _),
      List.takeWhile_append_dropWhile, List.append_assoc]
    rfl
  have hskipped : ∀ c ∈ gap.text ++ p.dots ++ p.segment.takeWhile Char.isLower,
      isBareName c = false := by
    intro c hc
    simp only [List.mem_append] at hc
    rcases hc with (hc | hc) | hc
    · exact not_isBareName_of_isBlank (gap.isBlank_of_mem hc)
    · have hdot := List.all_eq_true.mp p.dots_legal c hc
      rw [beq_iff_eq] at hdot
      rw [hdot]
      rfl
    · exact not_isBareName_of_isLower (List.mem_takeWhile_imp hc)
  rw [hread, hsplit, readBareImport?_skip indent hskipped p.head?_dropWhile]
  by_cases hlower : p.segment.all Char.isLower = true
  · have hnil := List.dropWhile_eq_nil_iff.mpr (List.all_eq_true.mp hlower)
    rw [if_pos hlower, hnil]
    rfl
  · have hne : p.segment.dropWhile Char.isLower ≠ [] := fun hnil =>
      hlower (List.all_eq_true.mpr (List.dropWhile_eq_nil_iff.mp hnil))
    have hbare := p.head?_dropWhile
    obtain ⟨c, cs, hcs⟩ := List.exists_cons_of_ne_nil hne
    rw [hcs, List.head?_cons, Option.any_some, Bool.not_eq_false'] at hbare
    have hnonempty : ((c :: cs).takeWhile isBareName).isEmpty = false := by
      rw [List.takeWhile_cons_of_pos hbare]
      rfl
    rw [if_neg hlower, hcs, hnonempty, if_neg Bool.false_ne_true,
      Option.map_some]
    simp only [List.length_append, Nat.add_assoc]

end Directive

/-- The two ways in which a bound name is not whole, and where each of them
occurs. -/
theorem wholeName_iff {text : Text} {d : Directive}
    (h : Directive.read? text = some d) {b : BoundName} (hb : b ∈ d.names) :
    (WholeName text b ↔ ¬ BehindDigits text b ∧ ¬ CutOut text b) ∧
      (BehindDigits text b → d.kind = .declares ∨ '(' ∈ text.take b.start) ∧
      (CutOut text b → d = ⟨.imports, [b]⟩) := by
  have hnot : WholeName text b → ¬ BehindDigits text b ∧ ¬ CutOut text b :=
    fun hwhole => ⟨hwhole.not_behindDigits, hwhole.not_cutOut⟩
  rcases Directive.read?_cases h hb with ⟨digits, hends, hlist⟩ | ⟨hd, hbare⟩
  · refine ⟨⟨hnot, fun hneither => ?_⟩, fun hbehind => ?_,
      fun hcut => absurd hcut hends.not_cutOut⟩
    · by_cases hne : digits = []
      · rw [hne] at hends
        exact hends.wholeName
      · exact absurd ⟨digits, hne, hends⟩ hneither.1
    · refine hlist.resolve_left fun hnil => ?_
      rw [hnil] at hends
      exact hends.wholeName.not_behindDigits hbehind
  · exact ⟨⟨hnot, fun hneither => hbare.wholeName hneither.2⟩,
      fun hbehind => absurd hbehind hbare.not_behindDigits, fun _ => hd⟩

/-- Directives bind names from left to right, each where the line shows it. Such
a name is a whole identifier unless it is what a list leaves of a word that
opens with digits, or the only name of a bare import, cut out of a word or
opening with a digit. So of a bare lower-case path an import binds the first run
of digits and underscores, and nothing if there are only letters. -/
theorem bound_names_whole (text : Text) :
    (∀ d, Directive.read? text = some d →
      (d.names.Pairwise fun a b => a.start < b.start) ∧
      ∀ b ∈ d.names, hasAt b.name text b.start = true ∧
        (WholeName text b ↔ ¬ BehindDigits text b ∧ ¬ CutOut text b) ∧
        (BehindDigits text b → d.kind = .declares ∨ '(' ∈ text.take b.start) ∧
        (CutOut text b → d = ⟨.imports, [b]⟩)) ∧
    ∀ (indent gap : Blanks) (p : BarePath), gap.text ≠ [] →
      text = indent.text ++ (Directive.importKeyword ++ (gap.text ++ p.text)) →
      Directive.read? text =
        if p.segment.all Char.isLower then none
        else some ⟨.imports,
          [⟨(p.segment.dropWhile Char.isLower).takeWhile Directive.isBareName,
            indent.text.length + Directive.importKeyword.length +
              gap.text.length + p.dots.length +
                (p.segment.takeWhile Char.isLower).length⟩]⟩ := by
  refine ⟨fun d h => ?_, fun indent gap p hgap htext => ?_⟩
  · have hbound := Directive.read?_boundIn h
    exact ⟨hbound.ordered, fun b hb => ⟨(hbound.named b hb).shown,
      wholeName_iff h hb⟩⟩
  · rw [htext]
    exact Directive.read?_barePath indent hgap p

/-- A digit cut out of a path, a letter behind a digit, and a path of letters
alone. -/
theorem bound_names_whole_fragments :
    (Directive.read? "%import lib2".toList = some ⟨.imports, [⟨['2'], 11⟩]⟩ ∧
      ¬ WholeName "%import lib2".toList ⟨['2'], 11⟩) ∧
    (Directive.read? "%declare 1a".toList = some ⟨.declares, [⟨['a'], 10⟩]⟩ ∧
      ¬ WholeName "%declare 1a".toList ⟨['a'], 10⟩) ∧
    Directive.read? "%import .lib".toList = none := by
  have himport : Directive.read? "%import lib2".toList =
      some ⟨.imports, [⟨['2'], 11⟩]⟩ := by
    decide
  have hdeclare : Directive.read? "%declare 1a".toList =
      some ⟨.declares, [⟨['a'], 10⟩]⟩ := by
    decide
  have hbare : BareName "%import lib2".toList ⟨['2'], 11⟩ :=
    ⟨[], " lib".toList, [], rfl, rfl, rfl, rfl, by decide, rfl, rfl⟩
  have hends : EndsWord "%declare 1a".toList ⟨['a'], 10⟩ ['1'] :=
    ⟨rfl, rfl, 9, rfl, "%declare ".toList, [], rfl, rfl,
      ⟨by decide, List.all_eq_true.mp rfl⟩, rfl, rfl⟩
  refine ⟨⟨himport, fun hwhole => ?_⟩, ⟨hdeclare, fun hwhole => ?_⟩, ?_⟩
  · have hbound :=
      ((bound_names_whole _).1 _ himport).2 _ (List.mem_singleton_self _)
    have hnot := hbound.2.1.mp hwhole
    exact hnot.2 ⟨hbare, .inl rfl⟩
  · have hbound :=
      ((bound_names_whole _).1 _ hdeclare).2 _ (List.mem_singleton_self _)
    have hnot := hbound.2.1.mp hwhole
    exact hnot.1 ⟨['1'], by decide, hends⟩
  · exact (bound_names_whole _).2 ⟨[], rfl⟩ ⟨[' '], rfl⟩
      ⟨['.'], "lib".toList, rfl, by decide, by decide⟩ (by decide) rfl

end GrammarLint
