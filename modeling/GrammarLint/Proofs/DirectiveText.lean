import GrammarLint.Proofs.NameLists

/-!
# Directives as they are written

A directive binds names in four ways: an `%import` ends its module path in a
name, gives the path an alias, or lists names in parentheses, and a `%declare`
lists names with blanks between them. Here each of them is a value with its
parts, with blanks wherever they may stand and perhaps a comment behind it,
and it is read back: it binds the names that were written, in order and at
their columns, and no others.

Every reader stops in the right place because of the character that comes next.
A path ends before a blank, a slash, a dash or a parenthesis, and none of them
could continue it. The part behind the path is read as a clause only if it opens
with an arrow or a parenthesis, so a comment leaves the path to itself. A list
has no slash and no parenthesis in it, so it ends where it was meant to.
-/

namespace GrammarLint

open Text (IsRun isBlank isIdentStart isSpace isWord sweepFrom)

/-- The ASCII blanks other than the line break. -/
def isInnerBlank (c : Char) : Bool := isBlank c && c != '\n'

/-- Blanks inside a line, perhaps none. -/
structure Blanks where
  text : Text
  legal : text.all isInnerBlank = true

/-- An identifier of any case. -/
structure Identifier where
  text : Text
  legal : isIdentifier text = true

/-- A segment of a module path. -/
def isSegment (t : Text) : Bool := !t.isEmpty && t.all isWord

/-- A module path: leading dots, perhaps none, and segments with a dot between
each two. -/
structure ModulePath where
  dots : Text
  first : Text
  more : List Text
  dots_legal : dots.all (· == '.') = true
  first_legal : isSegment first = true
  more_legal : more.all isSegment = true

namespace ModulePath

/-- The path without its leading dots. -/
def segments (p : ModulePath) : Text := p.first ++ p.more.flatMap ('.' :: ·)

def text (p : ModulePath) : Text := p.dots ++ p.segments

end ModulePath

/-- What stands between two names of a list: blanks, and in parentheses a comma
among them. -/
def isSeparator (comma : Bool) (t : Text) : Bool :=
  if comma then
    match t.dropWhile isInnerBlank with
    | ',' :: rest => rest.all isInnerBlank
    | _ => false
  else !t.isEmpty && t.all isInnerBlank

/-- One or more names with a separator between each two. -/
structure NameList (comma : Bool) where
  first : Identifier
  more : List (Text × Identifier)
  legal : ∀ m ∈ more, isSeparator comma m.1 = true

/-- The characters of the names behind the first one. -/
def followText (more : List (Text × Identifier)) : Text :=
  more.flatMap fun m => m.1 ++ m.2.text

/-- The names behind the first one, which ends at the column. -/
def followNames : Nat → List (Text × Identifier) → List BoundName
  | _, [] => []
  | column, m :: more =>
    ⟨m.2.text, column + m.1.length⟩ ::
      followNames (column + m.1.length + m.2.text.length) more

namespace NameList

variable {comma : Bool} (l : NameList comma)

def text : Text := l.first.text ++ followText l.more

/-- The names of a list in order. -/
def names : List Text := l.first.text :: l.more.map fun m => m.2.text

/-- The names of a list that starts at the column, each with its own column. -/
def boundFrom (column : Nat) : List BoundName :=
  ⟨l.first.text, column⟩ :: followNames (column + l.first.text.length) l.more

end NameList

/-- Nothing, or a comment that ends with the line. -/
def isComment : Text → Bool
  | [] => true
  | '/' :: '/' :: rest => !rest.contains '\n'
  | _ => false

/-- What may close a directive: blanks and a comment. -/
structure Ending where
  blanks : Blanks
  comment : Text
  legal : isComment comment = true

def Ending.text (e : Ending) : Text := e.blanks.text ++ e.comment

/-- What stands behind the keyword of a directive and the blanks after it. -/
inductive DirectiveForm where
  /-- `%import path.NAME` -/
  | dotted (path : ModulePath) (name : Identifier)
  /-- `%import path -> ALIAS` -/
  | renamed (path : ModulePath) (before behind : Blanks) (name : Identifier)
  /-- `%import path (A, b)` -/
  | listed (path : ModulePath) (before lead : Blanks) (names : NameList true)
    (trail : Blanks)
  /-- `%declare A b` -/
  | declared (names : NameList false)

namespace DirectiveForm

def kind : DirectiveForm → DirectiveKind
  | declared _ => .declares
  | _ => .imports

def keyword : DirectiveForm → Text
  | declared _ => Directive.declareKeyword
  | _ => Directive.importKeyword

def text : DirectiveForm → Text
  | dotted path name => path.text ++ '.' :: name.text
  | renamed path before behind name =>
    path.text ++ before.text ++ ['-', '>'] ++ behind.text ++ name.text
  | listed path before lead names trail =>
    path.text ++ before.text ++ ['('] ++ lead.text ++ names.text ++
      trail.text ++ [')']
  | declared names => names.text

/-- The names that a form should bind. -/
def names : DirectiveForm → List Text
  | dotted _ name => [name.text]
  | renamed _ _ _ name => [name.text]
  | listed _ _ _ names _ => names.names
  | declared names => names.names

/-- The names that a form should bind if it starts at the column, each with its
own column. -/
def boundFrom (column : Nat) : DirectiveForm → List BoundName
  | dotted path name => [⟨name.text, column + path.text.length + 1⟩]
  | renamed path before behind name =>
    [⟨name.text, column + path.text.length + before.text.length + 2 +
      behind.text.length⟩]
  | listed path before lead names _ =>
    names.boundFrom (column + path.text.length + before.text.length + 1 +
      lead.text.length)
  | declared names => names.boundFrom column

end DirectiveForm

/-- A directive as it is written. -/
structure DirectiveText where
  indent : Blanks
  gap : Blanks
  form : DirectiveForm
  ending : Ending
  gap_ne : gap.text ≠ []

namespace DirectiveText

variable (d : DirectiveText)

def text : Text :=
  d.indent.text ++ d.form.keyword ++ d.gap.text ++ d.form.text ++ d.ending.text

/-- The names that a directive should bind, each with its column. -/
def bound : List BoundName :=
  d.form.boundFrom (d.indent.text.length + d.form.keyword.length +
    d.gap.text.length)

end DirectiveText

theorem isBlank_of_isInnerBlank {c : Char} (h : isInnerBlank c = true) :
    isBlank c = true := by
  rw [isInnerBlank, Bool.and_eq_true] at h
  exact h.1

namespace Blanks

variable (b : Blanks)

theorem isBlank_of_mem {c : Char} (hc : c ∈ b.text) : isBlank c = true :=
  isBlank_of_isInnerBlank (List.all_eq_true.mp b.legal c hc)

theorem all_isBlank : b.text.all isBlank = true :=
  List.all_eq_true.mpr fun _ => b.isBlank_of_mem

/-- A character that is no blank is none of these. -/
theorem notMem {c : Char} (hc : isInnerBlank c = false) : c ∉ b.text := by
  intro hmem
  rw [List.all_eq_true.mp b.legal c hmem] at hc
  cases hc

theorem not_isIdentStart {c : Char} (hc : c ∈ b.text) :
    isIdentStart c = false :=
  not_isIdentStart_of_not_isWord (isWord_of_isBlank (b.isBlank_of_mem hc))

theorem head?_append {p : Char → Bool} (hp : ∀ c, isBlank c = true →
      p c = false) {rest : Text}
    (hrest : rest.head?.any p = false) : (b.text ++ rest).head?.any p = false :=
  head?_append_any b.all_isBlank hp hrest

theorem head?_any {p : Char → Bool} (hp : ∀ c, isBlank c = true → p c = false) :
    b.text.head?.any p = false := by
  have hhead := b.head?_append hp (rfl : ([] : Text).head?.any p = false)
  rwa [List.append_nil] at hhead

theorem exists_cons (h : b.text ≠ []) :
    ∃ c cs, b.text = c :: cs ∧ isBlank c = true := by
  obtain ⟨c, cs, hcs⟩ := List.exists_cons_of_ne_nil h
  exact ⟨c, cs, hcs, b.isBlank_of_mem (by rw [hcs]; exact List.mem_cons_self)⟩

theorem dropWhile_isBlank {rest : Text}
    (hrest : rest.head?.any isBlank = false) :
    (b.text ++ rest).dropWhile isBlank = rest :=
  Text.dropWhile_append_of_stop (fun _ => b.isBlank_of_mem) hrest

end Blanks

/-- The characters of a separator. There is at least one. -/
theorem separator_chars {comma : Bool} {t : Text}
    (h : isSeparator comma t = true) :
    t ≠ [] ∧ ∀ c ∈ t, isInnerBlank c = true ∨ c = ',' := by
  rw [isSeparator] at h
  split at h
  · split at h
    · next rest hrest =>
        have hsplit : t.takeWhile isInnerBlank ++ ',' :: rest = t := by
          rw [← hrest, List.takeWhile_append_dropWhile]
        refine ⟨by rw [← hsplit]; simp, fun c hc => ?_⟩
        rw [← hsplit, List.mem_append, List.mem_cons] at hc
        rcases hc with hc | hc | hc
        · exact .inl (List.mem_takeWhile_imp hc)
        · exact .inr hc
        · exact .inl (List.all_eq_true.mp h c hc)
    · cases h
  · rw [Bool.and_eq_true, Bool.not_eq_true', List.isEmpty_eq_false_iff] at h
    exact ⟨h.1, fun c hc => .inl (List.all_eq_true.mp h.2 c hc)⟩

theorem isWord_of_separator {comma : Bool} {t : Text}
    (h : isSeparator comma t = true) {c : Char} (hc : c ∈ t) :
    isWord c = false := by
  rcases (separator_chars h).2 c hc with hblank | rfl
  · exact isWord_of_isBlank (isBlank_of_isInnerBlank hblank)
  · rfl

namespace NameList

variable {comma : Bool} (l : NameList comma)

/-- The characters of a list: word characters, blanks and commas. -/
theorem mem_text {c : Char} (hc : c ∈ l.text) :
    isWord c = true ∨ isInnerBlank c = true ∨ c = ',' := by
  rw [text, List.mem_append, followText, List.mem_flatMap] at hc
  rcases hc with hc | ⟨m, hm, hc⟩
  · exact .inl ((isRun_of_isIdentifier l.first.legal).inside c hc)
  · rcases List.mem_append.mp hc with hc | hc
    · exact .inr ((separator_chars (l.legal m hm)).2 c hc)
    · exact .inl ((isRun_of_isIdentifier m.2.legal).inside c hc)

theorem notMem_text {c : Char} (hword : isWord c = false)
    (hblank : isInnerBlank c = false) (hcomma : c ≠ ',') : c ∉ l.text := by
  intro hc
  rcases l.mem_text hc with h | h | h
  · rw [h] at hword
    cases hword
  · rw [h] at hblank
    cases hblank
  · exact hcomma h

end NameList

theorem comment_cases {comment : Text} (h : isComment comment = true) :
    comment = [] ∨ ∃ rest, comment = '/' :: '/' :: rest ∧ '\n' ∉ rest := by
  unfold isComment at h
  split at h
  · exact .inl rfl
  · next rest => exact .inr ⟨rest, rfl, by simpa using h⟩
  · cases h

theorem Ending.head?_any (e : Ending) {p : Char → Bool}
    (hp : ∀ c, isBlank c = true → p c = false) (hslash : p '/' = false) :
    e.text.head?.any p = false := by
  refine e.blanks.head?_append hp ?_
  rcases comment_cases e.legal with h | ⟨rest, h, -⟩
  · rw [h]
    rfl
  · rw [h]
    exact hslash

namespace Directive

theorem takeSegments_run {run : Text} (hrun : ∀ c ∈ run, isWord c = true)
    (rest : Text) :
    takeSegments (run ++ rest) = run ++ takeSegments rest := by
  induction run with
  | nil => rfl
  | cons c cs ih =>
      rw [List.cons_append, takeSegments, hrun c List.mem_cons_self,
        Bool.true_or, if_pos rfl,
        ih fun d hd => hrun d (List.mem_cons_of_mem c hd), List.cons_append]

theorem takeSegments_dot {rest : Text} (h : rest.head?.any isWord = true) :
    takeSegments ('.' :: rest) = '.' :: takeSegments rest := by
  rw [takeSegments, h, if_pos (by decide)]

theorem takeSegments_stop {rest : Text}
    (h : rest.head?.any (fun c => isWord c || c == '.') = false) :
    takeSegments rest = [] := by
  cases rest with
  | nil => rfl
  | cons c cs =>
      have hc : (isWord c || c == '.') = false := h
      rw [Bool.or_eq_false_iff] at hc
      rw [takeSegments, hc.1, hc.2, if_neg (by simp)]

theorem lastSegment_append {name : Text} (hname : '.' ∉ name) (front : Text) :
    lastSegment (front ++ '.' :: name) = name := by
  have htake : (name.reverse ++ '.' :: front.reverse).takeWhile (· != '.') =
      name.reverse := by
    refine Text.takeWhile_append_of_stop (fun c hc => ?_) rfl
    rw [bne_iff_ne]
    intro heq
    subst heq
    exact hname (List.mem_reverse.mp hc)
  rw [lastSegment, List.reverse_append, List.reverse_cons, List.append_assoc,
    List.singleton_append, htake, List.reverse_reverse]

end Directive

theorem isRun_of_isSegment {t : Text} (h : isSegment t = true) : IsRun t := by
  rw [isSegment, Bool.and_eq_true, Bool.not_eq_true',
    List.isEmpty_eq_false_iff] at h
  exact ⟨h.1, List.all_eq_true.mp h.2⟩

theorem head?_run {run : Text} (hrun : IsRun run) (rest : Text) :
    (run ++ rest).head?.any isWord = true := by
  obtain ⟨c, cs, rfl⟩ := List.exists_cons_of_ne_nil hrun.nonempty
  exact hrun.inside c List.mem_cons_self

theorem takeSegments_more {more : List Text} (hmore : more.all isSegment = true)
    {rest : Text}
    (hstop : rest.head?.any (fun c => isWord c || c == '.') = false) :
    Directive.takeSegments (more.flatMap ('.' :: ·) ++ rest) =
      more.flatMap ('.' :: ·) := by
  induction more with
  | nil => exact Directive.takeSegments_stop hstop
  | cons segment more ih =>
      rw [List.all_cons, Bool.and_eq_true] at hmore
      have hrun := isRun_of_isSegment hmore.1
      rw [List.flatMap_cons, List.append_assoc, List.cons_append,
        Directive.takeSegments_dot (head?_run hrun _),
        Directive.takeSegments_run hrun.inside, ih hmore.2]
      rfl

namespace ModulePath

variable (p : ModulePath)

theorem takeSegments_append {rest : Text}
    (hstop : rest.head?.any (fun c => isWord c || c == '.') = false) :
    Directive.takeSegments (p.segments ++ rest) = p.segments := by
  rw [segments, List.append_assoc,
    Directive.takeSegments_run (isRun_of_isSegment p.first_legal).inside,
    takeSegments_more p.more_legal hstop]

theorem head?_segments (rest : Text) :
    (p.segments ++ rest).head?.any isWord = true := by
  rw [segments, List.append_assoc]
  exact head?_run (isRun_of_isSegment p.first_legal) _

/-- A path opens with a dot or a word character. -/
theorem head?_text {q : Char → Bool} (hword : ∀ c, isWord c = true →
      q c = false)
    (hdot : q '.' = false) (rest : Text) :
    (p.text ++ rest).head?.any q = false := by
  rw [text, List.append_assoc]
  refine head?_append_any p.dots_legal (fun c hc => ?_) ?_
  · rw [beq_iff_eq] at hc
    rw [hc]
    exact hdot
  · have hopen := p.head?_segments rest
    cases hhead : (p.segments ++ rest).head? with
    | none => rfl
    | some c =>
        rw [hhead] at hopen
        exact hword c hopen

theorem dropWhile_dots (rest : Text) :
    (p.text ++ rest).dropWhile (· == '.') = p.segments ++ rest := by
  rw [text, List.append_assoc]
  refine Text.dropWhile_append_of_stop (by simpa using p.dots_legal) ?_
  have hopen := p.head?_segments rest
  cases hhead : (p.segments ++ rest).head? with
  | none => rfl
  | some c =>
      rw [hhead] at hopen
      rw [Option.any_some, ← Bool.not_eq_true, beq_iff_eq]
      intro heq
      subst heq
      exact absurd hopen (by decide)

end ModulePath

namespace Directive

theorem dropWhile_indent (indent : Blanks) {keyword : Text}
    (h : keyword.head? = some '%') (rest : Text) :
    (indent.text ++ (keyword ++ rest)).dropWhile isBlank = keyword ++ rest := by
  refine indent.dropWhile_isBlank ?_
  cases keyword with
  | nil => cases h
  | cons c cs =>
      obtain rfl : c = '%' := Option.some.inj h
      rfl

/-- An `%import` with a module path is read up to the end of the path. -/
theorem readImport?_path (indent : Blanks) {gap : Blanks} (p : ModulePath)
    {rest : Text} (hgap : gap.text ≠ [])
    (hstop : rest.head?.any (fun c => isWord c || c == '.') = false) :
    readImport?
      (indent.text ++ (importKeyword ++ (gap.text ++ (p.text ++ rest)))) =
        some ((readClause?
            (indent.text ++
              (importKeyword ++ (gap.text ++ (p.text ++ rest)))).length
            (rest.dropWhile isBlank)).getD
          (pathName p.segments
            ((indent.text ++
                (importKeyword ++ (gap.text ++ (p.text ++ rest)))).length -
              rest.length))) := by
  have hkeyword :
      importKeyword.isPrefixOf?
        (importKeyword ++ (gap.text ++ (p.text ++ rest))) =
      some (gap.text ++ (p.text ++ rest)) :=
        List.isPrefixOf?_eq_some_iff_append_eq.mpr rfl
  have hpath : (gap.text ++ (p.text ++ rest)).dropWhile isBlank =
      p.text ++ rest :=
    gap.dropWhile_isBlank (p.head?_text (fun _ => isBlank_of_isWord) rfl rest)
  have hblank : (gap.text ++ (p.text ++ rest)).head?.any isBlank = true := by
    obtain ⟨c, cs, hcs, hc⟩ := gap.exists_cons hgap
    rw [hcs]
    exact hc
  rw [readImport?, dropWhile_indent indent rfl, hkeyword]
  dsimp only
  rw [hpath, p.dropWhile_dots, p.takeSegments_append hstop,
    List.drop_left, hblank, p.head?_segments, Bool.and_self, if_pos rfl]
  cases readClause? _ (rest.dropWhile isBlank) <;> rfl

end Directive

theorem beforeComment_append {t comment : Text} (ht : '/' ∉ t)
    (hcomment : isComment comment = true) :
    Text.beforeComment (t ++ comment) = t := by
  induction t with
  | nil =>
      rcases comment_cases hcomment with rfl | ⟨rest, rfl, -⟩ <;> rfl
  | cons c cs ih =>
      have hc : c ≠ '/' := fun h => ht (by rw [h]; exact List.mem_cons_self)
      have hcs : '/' ∉ cs := fun h => ht (List.mem_cons_of_mem c h)
      rw [List.cons_append, Text.beforeComment, ih hcs]
      intro rest heq _
      subst heq
      exact hc rfl

section

variable {comma : Bool}

theorem head?_follow {more : List (Text × Identifier)}
    (hlegal : ∀ m ∈ more, isSeparator comma m.1 = true) {rest : Text}
    (hrest : rest.head?.any isWord = false) :
    (followText more ++ rest).head?.any isWord = false := by
  cases more with
  | nil => exact hrest
  | cons m more =>
      have hm := hlegal m List.mem_cons_self
      obtain ⟨c, cs, hcs⟩ := List.exists_cons_of_ne_nil (separator_chars hm).1
      have hc : isWord c = false :=
        isWord_of_separator hm (by rw [hcs]; exact List.mem_cons_self)
      rw [followText, List.flatMap_cons, hcs]
      exact hc

theorem sweepFrom_follow {more : List (Text × Identifier)}
    (hlegal : ∀ m ∈ more, isSeparator comma m.1 = true) (trail : Blanks)
    (offset column : Nat) (edge : Option Char) :
    (sweepFrom Directive.readName 0 column edge
      (followText more ++ trail.text)).map
        (fun found => (⟨found.2, offset + found.1⟩ : BoundName)) =
      followNames (offset + column) more := by
  induction more generalizing column edge with
  | nil =>
      rw [followText, List.flatMap_nil, List.nil_append,
        ← List.append_nil trail.text,
        Directive.sweepFrom_skip fun _ => trail.not_isIdentStart]
      rfl
  | cons m more ih =>
      have hm := hlegal m List.mem_cons_self
      have hmore : ∀ m ∈ more, isSeparator comma m.1 = true :=
        fun n hn => hlegal n (List.mem_cons_of_mem m hn)
      have hstop :=
        head?_follow hmore (trail.head?_any fun _ => isWord_of_isBlank)
      have htext : followText (m :: more) ++ trail.text =
          m.1 ++ (m.2.text ++ (followText more ++ trail.text)) := by
        simp only [followText, List.flatMap_cons, List.append_assoc]
      rw [htext, Directive.sweepFrom_skip
        (fun c hc => not_isIdentStart_of_not_isWord
          (isWord_of_separator hm hc)),
        Directive.sweepFrom_name m.2.legal hstop, List.map_cons, ih hmore,
        followNames]
      simp only [Nat.add_assoc]

/-- A list of names is read back, with blanks around it and a comment behind. -/
theorem namesIn_list (l : NameList comma) (lead trail : Blanks) {comment : Text}
    (hcomment : isComment comment = true) (offset : Nat) :
    Directive.namesIn offset
      (lead.text ++ (l.text ++ (trail.text ++ comment))) =
        l.boundFrom (offset + lead.text.length) := by
  have hslash : '/' ∉ lead.text ++ (l.text ++ trail.text) := by
    simp only [List.mem_append, not_or]
    exact ⟨lead.notMem rfl, l.notMem_text rfl rfl (by decide), trail.notMem rfl⟩
  have hlist :
      Text.beforeComment (lead.text ++ (l.text ++ (trail.text ++ comment))) =
        lead.text ++ (l.text ++ trail.text) := by
    rw [← beforeComment_append hslash hcomment]
    simp only [List.append_assoc]
  have hstop :=
    head?_follow l.legal (trail.head?_any fun _ => isWord_of_isBlank)
  show (sweepFrom Directive.readName 0 0 none (Text.beforeComment _)).map
    (fun found => (⟨found.2, offset + found.1⟩ : BoundName)) = _
  rw [hlist, Directive.sweepFrom_skip (fun _ => lead.not_isIdentStart),
    NameList.text, List.append_assoc,
    Directive.sweepFrom_name l.first.legal hstop, List.map_cons,
    sweepFrom_follow l.legal, NameList.boundFrom]
  simp only [Nat.zero_add, Nat.add_assoc]

end

/-! ## The four forms

Each form has a reader of its own, which passes over the parts one after the
other. The lemmas above say where every part ends; here they are put together,
form by form. -/

namespace Directive

theorem readDeclare?_list (indent gap : Blanks) (l : NameList false)
    (e : Ending) (hgap : gap.text ≠ []) :
    readDeclare?
      (indent.text ++ (declareKeyword ++ (gap.text ++ (l.text ++ e.text)))) =
        some (l.boundFrom (indent.text.length + declareKeyword.length +
          gap.text.length)) := by
  have hkeyword :
      declareKeyword.isPrefixOf?
        (declareKeyword ++ (gap.text ++ (l.text ++ e.text))) =
      some (gap.text ++ (l.text ++ e.text)) :=
        List.isPrefixOf?_eq_some_iff_append_eq.mpr rfl
  have hword : (gap.text ++ (l.text ++ e.text)).head?.any isWord = false := by
    obtain ⟨c, cs, hcs, hc⟩ := gap.exists_cons hgap
    rw [hcs]
    exact isWord_of_isBlank hc
  have hbreak : ∀ c ∈ gap.text ++ (l.text ++ e.text), (c != '\n') = true := by
    intro c hc
    rw [bne_iff_ne]
    intro heq
    subst heq
    simp only [Ending.text, List.mem_append] at hc
    rcases hc with hc | hc | hc | hc
    · exact gap.notMem rfl hc
    · exact l.notMem_text rfl rfl (by decide) hc
    · exact e.blanks.notMem rfl hc
    · rcases comment_cases e.legal with h | ⟨rest, h, hrest⟩
      · rw [h] at hc
        cases hc
      · rw [h] at hc
        simp only [List.mem_cons] at hc
        rcases hc with hc | hc | hc
        · cases hc
        · cases hc
        · exact hrest hc
  have hlist := List.takeWhile_eq_self_iff.mpr hbreak
  have hend := List.dropWhile_eq_nil_iff.mpr hbreak
  rw [readDeclare?, dropWhile_indent indent rfl, hkeyword]
  dsimp only
  rw [hword, if_neg Bool.false_ne_true, hlist, hend]
  dsimp only
  rw [Ending.text, namesIn_list l gap e.blanks e.legal]
  refine congrArg (fun n => some (l.boundFrom n)) ?_
  simp only [List.length_append]
  omega

theorem readClause?_ending (size : Nat) (e : Ending) :
    readClause? size (e.text.dropWhile isBlank) = none := by
  rcases comment_cases e.legal with h | ⟨rest, h, -⟩
  · rw [Ending.text, h, e.blanks.dropWhile_isBlank rfl]
    rfl
  · rw [Ending.text, h, e.blanks.dropWhile_isBlank rfl]
    rfl

theorem readClause?_arrow (size : Nat) (behind : Blanks) (name : Identifier)
    {rest : Text} (hstop : rest.head?.any isWord = false) :
    readClause? size ('-' :: '>' :: (behind.text ++ (name.text ++ rest))) =
      some [⟨name.text, size - (name.text ++ rest).length⟩] := by
  have hblank :=
    (isRun_of_isIdentifier name.legal).head?_any
    (fun _ => isBlank_of_isWord) rest
  rw [readClause?, behind.dropWhile_isBlank hblank,
    readIdentifier?_append name.legal hstop]
  rfl

theorem readClause?_list (size : Nat) (lead trail : Blanks) (l : NameList true)
    (rest : Text) :
    readClause? size
      ('(' :: (lead.text ++ (l.text ++ (trail.text ++ ')' :: rest)))) =
      some (l.boundFrom
        (size - (lead.text ++ (l.text ++ (trail.text ++ ')' :: rest))).length +
          lead.text.length)) := by
  have hlist : ∀ c ∈ lead.text ++ (l.text ++ (trail.text ++ [])), (c != ')') =
      true := by
    intro c hc
    rw [bne_iff_ne]
    intro heq
    subst heq
    simp only [List.append_nil, List.mem_append] at hc
    rcases hc with hc | hc | hc
    · exact lead.notMem rfl hc
    · exact l.notMem_text rfl rfl (by decide) hc
    · exact trail.notMem rfl hc
  have htext : lead.text ++ (l.text ++ (trail.text ++ ')' :: rest)) =
      lead.text ++ (l.text ++ (trail.text ++ [])) ++ ')' :: rest := by
    simp only [List.append_nil, List.append_assoc]
  have htake :=
    Text.takeWhile_append_of_stop hlist
      (rfl : (')' :: rest).head?.any (· != ')') = _)
  rw [← htext] at htake
  rw [readClause?, if_pos (by simp), htake, namesIn_list l lead trail rfl]

theorem readDeclare?_import (indent : Blanks) (rest : Text) :
    readDeclare? (indent.text ++ (importKeyword ++ rest)) = none := by
  rw [readDeclare?, dropWhile_indent indent rfl]
  rfl

theorem read?_of_readImport? {indent : Blanks} {rest : Text} {b : BoundName}
    {names : List BoundName}
    (h : readImport? (indent.text ++ (importKeyword ++ rest)) =
      some (b :: names)) :
    read? (indent.text ++ (importKeyword ++ rest)) =
      some ⟨.imports, b :: names⟩ := by
  rw [read?, readDeclare?_import, h]

end Directive

namespace ModulePath

/-- The path with one more segment. -/
def snoc (p : ModulePath) (name : Identifier) : ModulePath where
  dots := p.dots
  first := p.first
  more := p.more ++ [name.text]
  dots_legal := p.dots_legal
  first_legal := p.first_legal
  more_legal := by
    have hrun := isRun_of_isIdentifier name.legal
    rw [List.all_append, p.more_legal, Bool.true_and, List.all_cons,
      List.all_nil, Bool.and_true, isSegment, List.all_eq_true.mpr hrun.inside,
      Bool.and_true, Bool.not_eq_true', List.isEmpty_eq_false_iff]
    exact hrun.nonempty

variable (p : ModulePath) (name : Identifier)

theorem segments_snoc :
    (p.snoc name).segments = p.segments ++ '.' :: name.text := by
  simp only [segments, snoc, List.flatMap_append, List.flatMap_cons,
    List.flatMap_nil, List.append_nil, List.append_assoc]

theorem text_snoc : (p.snoc name).text = p.text ++ '.' :: name.text := by
  rw [text, segments_snoc, text, List.append_assoc]
  rfl

/-- A path that ends in an identifier behind a dot is imported under that
name. -/
theorem pathName_snoc (stop : Nat) :
    Directive.pathName (p.snoc name).segments stop =
      [⟨name.text, stop - name.text.length⟩] := by
  have hrun := isRun_of_isIdentifier name.legal
  have hdot : '.' ∉ name.text := fun h => absurd (hrun.inside '.' h) (by decide)
  have hopen : name.text.head?.any isIdentStart = true := by
    have hlegal := name.legal
    cases hname : name.text with
    | nil => exact absurd hname hrun.nonempty
    | cons c cs =>
        rw [hname, isIdentifier, Bool.and_eq_true] at hlegal
        exact hlegal.1
  rw [Directive.pathName, segments_snoc, Directive.lastSegment_append hdot,
    hopen, if_pos (by simp)]

end ModulePath

theorem not_pathChar_of_isBlank {c : Char} (h : isBlank c = true) :
    (isWord c || c == '.') = false := by
  rw [isWord_of_isBlank h, Bool.false_or, ← Bool.not_eq_true, beq_iff_eq]
  intro heq
  subst heq
  cases h

namespace Directive

variable {indent gap : Blanks} (hgap : gap.text ≠ []) (path : ModulePath)
  (e : Ending)

include hgap

theorem read?_dotted (name : Identifier) :
    read? (indent.text ++ (importKeyword ++ (gap.text ++
        (path.text ++ '.' :: name.text ++ e.text)))) =
      some ⟨.imports,
          [⟨name.text,
            indent.text.length + importKeyword.length + gap.text.length +
        path.text.length + 1⟩]⟩ := by
  have himport := readImport?_path indent (path.snoc name) hgap
    (e.head?_any (fun _ => not_pathChar_of_isBlank) rfl)
  rw [readClause?_ending, Option.getD_none, ModulePath.pathName_snoc,
      ModulePath.text_snoc]
    at himport
  rw [read?_of_readImport? himport]
  refine congrArg (fun n =>
    some (Directive.mk .imports [BoundName.mk name.text n])) ?_
  simp only [List.length_append, List.length_cons]
  omega

theorem read?_renamed (before behind : Blanks) (name : Identifier) :
    read? (indent.text ++ (importKeyword ++ (gap.text ++
        (path.text ++ before.text ++ ['-', '>'] ++ behind.text ++ name.text ++
          e.text)))) =
      some ⟨.imports,
          [⟨name.text,
            indent.text.length + importKeyword.length + gap.text.length +
        path.text.length + before.text.length + 2 + behind.text.length⟩]⟩ := by
  have htext :
      path.text ++ before.text ++ ['-',
        '>'] ++ behind.text ++ name.text ++ e.text =
      path.text ++
      (before.text ++ '-' :: '>' ::
        (behind.text ++ (name.text ++ e.text))) := by
    simp only [List.append_assoc, List.cons_append, List.nil_append]
  have hstop :
      (before.text ++ '-' :: '>' ::
        (behind.text ++ (name.text ++ e.text))).head?.any
      (fun c => isWord c || c == '.') = false :=
    before.head?_append (fun _ => not_pathChar_of_isBlank) rfl
  have himport := readImport?_path indent path hgap hstop
  rw [before.dropWhile_isBlank rfl, readClause?_arrow _ _ _
    (e.head?_any (fun _ => isWord_of_isBlank) rfl), Option.getD_some] at himport
  rw [htext, read?_of_readImport? himport]
  refine congrArg (fun n =>
    some (Directive.mk .imports [BoundName.mk name.text n])) ?_
  simp only [List.length_append, List.length_cons]
  omega

theorem read?_listed (before lead : Blanks) (l : NameList true)
    (trail : Blanks) :
    read? (indent.text ++
      (importKeyword ++ (gap.text ++ (path.text ++ before.text ++ ['('] ++
        lead.text ++ l.text ++ trail.text ++ [')'] ++ e.text)))) =
      some ⟨.imports,
          l.boundFrom (indent.text.length + importKeyword.length +
            gap.text.length +
        path.text.length + before.text.length + 1 + lead.text.length)⟩ := by
  have htext : path.text ++ before.text ++ ['('] ++ lead.text ++ l.text ++
    trail.text ++ [')'] ++
      e.text = path.text ++ (before.text ++ '(' ::
        (lead.text ++ (l.text ++ (trail.text ++ ')' :: e.text)))) := by
    simp only [List.append_assoc, List.cons_append, List.nil_append]
  have hstop : (before.text ++ '(' :: (lead.text ++ (l.text ++ (trail.text ++
      ')' :: e.text)))).head?.any (fun c => isWord c || c == '.') = false :=
    before.head?_append (fun _ => not_pathChar_of_isBlank) rfl
  have himport := readImport?_path indent path hgap hstop
  rw [before.dropWhile_isBlank rfl, readClause?_list, Option.getD_some,
      NameList.boundFrom]
    at himport
  rw [htext, read?_of_readImport? himport]
  refine congrArg (fun n => some (Directive.mk .imports (l.boundFrom n))) ?_
  simp only [List.length_append, List.length_cons]
  omega

omit path in
theorem read?_declared (l : NameList false) :
    read? (indent.text ++
        (declareKeyword ++ (gap.text ++ (l.text ++ e.text)))) =
      some ⟨.declares, l.boundFrom (indent.text.length + declareKeyword.length +
        gap.text.length)⟩ := by
  have hdeclare := readDeclare?_list indent gap l e hgap
  rw [NameList.boundFrom] at hdeclare ⊢
  rw [read?, hdeclare]

end Directive

namespace DirectiveText

variable (d : DirectiveText)

theorem text_append :
    d.text =
      d.indent.text ++
      (d.form.keyword ++ (d.gap.text ++ (d.form.text ++ d.ending.text))) := by
  simp only [text, List.append_assoc]

theorem read?_text : Directive.read? d.text = some ⟨d.form.kind, d.bound⟩ := by
  rw [text_append, bound]
  cases d.form with
  | dotted path name => exact Directive.read?_dotted d.gap_ne path d.ending name
  | renamed path before behind name =>
      exact Directive.read?_renamed d.gap_ne path d.ending before behind name
  | listed path before lead names trail =>
      exact Directive.read?_listed d.gap_ne path d.ending before lead
        names trail
  | declared names => exact Directive.read?_declared d.gap_ne d.ending names

theorem classify_text : classify d.text = .directive ⟨d.form.kind,
      d.bound⟩ := by
  have hpercent : ∃ rest, d.text.dropWhile isSpace = '%' :: rest := by
    have hkeyword : ∃ letters, d.form.keyword = '%' :: letters := by
      cases d.form <;> exact ⟨_, rfl⟩
    obtain ⟨letters, hletters⟩ := hkeyword
    rw [text_append, hletters]
    exact ⟨_, Text.dropWhile_append_of_stop
      (fun c hc => Text.isSpace_of_isBlank (d.indent.isBlank_of_mem hc)) rfl⟩
  obtain ⟨rest, hrest⟩ := hpercent
  simp only [classify, hrest, d.read?_text]

end DirectiveText

theorem names_followNames (column : Nat) (more : List (Text × Identifier)) :
    (followNames column more).map BoundName.name = more.map fun m =>
      m.2.text := by
  induction more generalizing column with
  | nil => rfl
  | cons m more ih => rw [followNames, List.map_cons, List.map_cons, ih]

theorem DirectiveForm.names_boundFrom (form : DirectiveForm) (column : Nat) :
    (form.boundFrom column).map BoundName.name = form.names := by
  cases form with
  | dotted | renamed => rfl
  | listed | declared =>
      simp only [boundFrom, names, NameList.boundFrom, NameList.names,
        List.map_cons, names_followNames]

/-- A written directive binds the names that were written, in order, each at its
column, and nothing else: the last name of a dotted path, or the alias and not
that name, or the names of the list. -/
theorem written_directive_binds (d : DirectiveText) :
    classify d.text = .directive ⟨d.form.kind, d.bound⟩ ∧
      d.bound.map BoundName.name = d.form.names ∧
      ∀ b ∈ d.bound, Text.hasAt b.name d.text b.start = true := by
  refine ⟨d.classify_text, d.form.names_boundFrom _, fun b hb => ?_⟩
  exact ((Directive.read?_boundIn d.read?_text).named b hb).shown

example : classify "%import .a.b -> C // d".toList = .directive ⟨.imports,
      [⟨['C'], 16⟩]⟩ := by
  decide

end GrammarLint
