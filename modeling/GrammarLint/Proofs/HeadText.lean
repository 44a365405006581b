import GrammarLint.Proofs.Bindings

/-!
# Heads as they are written

A definition opens with a head and a colon. Here the head is a value with its
parts: the blanks in front, the marker, the name, the priority, the blanks
behind. Whatever stands behind the colon, a line that opens so is read as a
definition of that name, and its body starts just past the colon.

Every part is taken off the front by a reader that stops at the first character
that does not belong to the part, so the only question is whether the next part
can open with such a character. It never can: a name opens with a word
character and no word character is a blank or a marker, a priority opens with a
dot, and the colon belongs to no part at all.
-/

namespace GrammarLint

open Text (isBlank isSpace isWord)

/-- A priority as it is written: nothing, or a dot and at least one digit. -/
def isPriority : Text → Bool
  | [] => true
  | c :: cs => c == '.' && !cs.isEmpty && cs.all Char.isDigit

/-- The head of a definition as it is written, without its colon. -/
structure HeadText where
  indent : Text
  marker : Text
  name : Text
  priority : Text
  gap : Text
  indent_blank : indent.all isBlank = true
  marker_legal : marker ∈ [[], ['?'], ['!']]
  name_spelled : (isTerminalName name || isRuleName name) = true
  priority_legal : isPriority priority = true
  gap_blank : gap.all isBlank = true

namespace HeadText

/-- The characters of a head. -/
def text (h : HeadText) : Text :=
  h.indent ++ h.marker ++ h.name ++ h.priority ++ h.gap

/-- What is read from the head. -/
def head (h : HeadText) : Head where
  name := h.name
  kind := SymbolKind.ofName h.name
  nameStart := h.indent.length + h.marker.length
  bodyStart := h.text.length + 1

end HeadText

theorem toNat_of_isWord {c : Char} (h : isWord c = true) :
    48 ≤ c.toNat ∧ c.toNat ≤ 122 := by
  rcases isWord_iff.mp h with h | h | h | rfl
  · have := toNat_of_isUpper h
    omega
  · have := toNat_of_isLower h
    omega
  · have := toNat_of_isDigit h
    omega
  · decide

theorem isSpace_of_isWord {c : Char} (h : isWord c = true) :
    isSpace c = false := by
  have hword := toNat_of_isWord h
  rw [← Bool.not_eq_true]
  intro hspace
  simp only [isSpace, isBlank, Text.isWideBlank, Bool.or_eq_true, beq_iff_eq,
    Bool.and_eq_true, decide_eq_true_eq] at hspace
  rcases hspace with (((((rfl | rfl) | rfl) | rfl) | rfl) | rfl) | hwide
  iterate 6 exact absurd hword (by decide)
  omega

theorem isWord_of_isBlank {c : Char} (h : isBlank c = true) :
    isWord c = false := by
  rw [← Bool.not_eq_true]
  intro hword
  have hspace := isSpace_of_isWord hword
  rw [Text.isSpace_of_isBlank h] at hspace
  cases hspace

theorem isBlank_of_isWord {c : Char} (h : isWord c = true) :
    isBlank c = false := by
  rw [← Bool.not_eq_true]
  intro hblank
  rw [isWord_of_isBlank hblank] at h
  cases h

/-- A word character is none of two characters that are no word characters. -/
theorem beq_or_of_isWord {a b c : Char} (ha : isWord a = false)
    (hb : isWord b = false) (hc : isWord c = true) :
    (c == a || c == b) = false := by
  rw [← Bool.not_eq_true, Bool.or_eq_true, beq_iff_eq, beq_iff_eq]
  intro h
  rcases h with rfl | rfl
  · rw [hc] at ha
    cases ha
  · rw [hc] at hb
    cases hb

theorem isWord_of_isDigit {c : Char} (h : c.isDigit = true) : isWord c = true :=
  isWord_iff.mpr (.inr (.inr (.inl h)))

/-- A text opens with no character of a class if its first part, should it have
characters, has none of the class, and what follows does not open with one. -/
theorem head?_append_any {p q : Char → Bool} {run rest : Text}
    (hrun : run.all q = true) (hpq : ∀ c, q c = true → p c = false)
    (hrest : rest.head?.any p = false) :
    (run ++ rest).head?.any p = false := by
  cases run with
  | nil => exact hrest
  | cons c cs =>
      rw [List.all_cons, Bool.and_eq_true] at hrun
      exact hpq c hrun.1

theorem Text.IsRun.head?_any {run : Text} (hrun : Text.IsRun run)
    {p : Char → Bool} (hp : ∀ c, isWord c = true → p c = false) (rest : Text) :
    (run ++ rest).head?.any p = false := by
  obtain ⟨c, cs, rfl⟩ := List.exists_cons_of_ne_nil hrun.nonempty
  exact hp c (hrun.inside c List.mem_cons_self)

theorem head?_priority_append {priority rest : Text}
    (h : isPriority priority = true) (hrest : rest.head?.any isWord = false) :
    (priority ++ rest).head?.any isWord = false := by
  cases priority with
  | nil => exact hrest
  | cons c cs =>
      simp only [isPriority, Bool.and_eq_true, beq_iff_eq] at h
      rw [h.1.1]
      rfl

theorem mem_priority {priority : Text} (h : isPriority priority = true)
    {c : Char} (hc : c ∈ priority) : c.isDigit = true ∨ c = '.' := by
  cases priority with
  | nil => cases hc
  | cons d ds =>
      simp only [isPriority, Bool.and_eq_true, beq_iff_eq] at h
      rcases List.mem_cons.mp hc with rfl | hc
      · exact .inr h.1.1
      · exact .inl (List.all_eq_true.mp h.2 c hc)

theorem ofName?_of_spelled {name : Text}
    (h : (isTerminalName name || isRuleName name) = true) :
    SymbolKind.ofName? name = some (SymbolKind.ofName name) := by
  rw [SymbolKind.ofName?, SymbolKind.ofName]
  split
  · rfl
  · next hterm =>
      rw [Bool.or_eq_true] at h
      rw [if_pos (h.resolve_left hterm)]

theorem Head.skipMarker_append {marker rest : Text}
    (hmarker : marker ∈ [[], ['?'], ['!']])
    (hrest : rest.head?.any (fun c => c == '?' || c == '!') = false) :
    skipMarker (marker ++ rest) = rest := by
  simp only [List.mem_cons, List.not_mem_nil, or_false] at hmarker
  rcases hmarker with rfl | rfl | rfl
  · rw [List.nil_append]
    unfold skipMarker
    split
    · cases hrest
    · cases hrest
    · rfl
  · rfl
  · rfl

theorem Head.skipPriority_append {priority rest : Text}
    (hpriority : isPriority priority = true)
    (hdot : rest.head?.any (· == '.') = false)
    (hdigit : rest.head?.any Char.isDigit = false) :
    skipPriority (priority ++ rest) = rest := by
  cases priority with
  | nil =>
      rw [List.nil_append]
      unfold skipPriority
      split
      · cases hdot
      · rfl
  | cons c digits =>
      simp only [isPriority, Bool.and_eq_true, beq_iff_eq, Bool.not_eq_true',
        List.isEmpty_eq_false_iff] at hpriority
      obtain ⟨⟨rfl, hne⟩, hdigits⟩ := hpriority
      obtain ⟨d, ds, rfl⟩ := List.exists_cons_of_ne_nil hne
      have hd : d.isDigit = true := by
        rw [List.all_cons, Bool.and_eq_true] at hdigits
        exact hdigits.1
      rw [List.cons_append, skipPriority, if_pos (by simpa using hd)]
      exact Text.dropWhile_append_of_stop (by simpa using hdigits) hdigit

namespace HeadText

variable (h : HeadText) (body : Text)

theorem isRun_name : Text.IsRun h.name :=
  SymbolKind.isRun_of_ofName? (ofName?_of_spelled h.name_spelled)

theorem head?_gap {p : Char → Bool} (hblank : ∀ c, isBlank c = true →
      p c = false)
    (hcolon : p ':' = false) : (h.gap ++ ':' :: body).head?.any p = false :=
  head?_append_any h.gap_blank hblank hcolon

theorem head?_priority :
    (h.priority ++ (h.gap ++ ':' :: body)).head?.any isWord = false :=
  head?_priority_append h.priority_legal
    (h.head?_gap body (fun _ => isWord_of_isBlank) rfl)

theorem head?_name {p : Char → Bool} (hp : ∀ c, isWord c = true → p c = false)
    (rest : Text) :
    (h.name ++ rest).head?.any p = false :=
  h.isRun_name.head?_any hp rest

/-- What follows the indent opens with a marker or with the name. -/
theorem head?_marker {p : Char → Bool} (hp : ∀ c, isWord c = true → p c = false)
    (hask : p '?' = false) (hbang : p '!' = false) (rest : Text) :
    (h.marker ++ (h.name ++ rest)).head?.any p = false := by
  have hmarker := h.marker_legal
  simp only [List.mem_cons, List.not_mem_nil, or_false] at hmarker
  rcases hmarker with hm | hm | hm
  · rw [hm]
    exact h.head?_name hp rest
  · rw [hm]
    exact hask
  · rw [hm]
    exact hbang

theorem text_append :
    h.text ++ ':' :: body =
      h.indent ++
      (h.marker ++ (h.name ++ (h.priority ++ (h.gap ++ ':' :: body)))) := by
  simp only [text, List.append_assoc]

theorem read?_text : Head.read? (h.text ++ ':' :: body) = some h.head := by
  have hindent : (h.text ++ ':' :: body).dropWhile isBlank =
      h.marker ++ (h.name ++ (h.priority ++ (h.gap ++ ':' :: body))) := by
    rw [text_append]
    refine Text.dropWhile_append_of_stop (by simpa using h.indent_blank) ?_
    exact h.head?_marker (fun _ => isBlank_of_isWord) rfl rfl _
  have hmarker : Head.skipMarker ((h.text ++ ':' :: body).dropWhile isBlank) =
      h.name ++ (h.priority ++ (h.gap ++ ':' :: body)) := by
    rw [hindent]
    exact Head.skipMarker_append h.marker_legal
      (h.head?_name (fun _ => beq_or_of_isWord (by decide) (by decide)) _)
  have htake :=
    Text.takeWhile_append_of_stop h.isRun_name.inside (h.head?_priority body)
  have hdrop :=
    Text.dropWhile_append_of_stop h.isRun_name.inside (h.head?_priority body)
  have hpriority : Head.skipPriority (h.priority ++ (h.gap ++ ':' :: body)) =
      h.gap ++ ':' :: body := by
    refine Head.skipPriority_append h.priority_legal ?_ ?_
    · refine h.head?_gap body (fun c hc => ?_) rfl
      rw [← Bool.not_eq_true, beq_iff_eq]
      intro heq
      subst heq
      cases hc
    · refine h.head?_gap body (fun c hc => ?_) rfl
      rw [← Bool.not_eq_true]
      intro hdigit
      rw [isBlank_of_isWord (isWord_of_isDigit hdigit)] at hc
      cases hc
  have hgap : (h.gap ++ ':' :: body).dropWhile isBlank = ':' :: body :=
    Text.dropWhile_append_of_stop (by simpa using h.gap_blank) rfl
  simp only [Head.read?, hmarker, htake, hdrop, hpriority, hgap,
    ofName?_of_spelled h.name_spelled]
  refine congrArg some ?_
  rw [head, Head.mk.injEq]
  refine ⟨rfl, rfl, ?_, ?_⟩
  · rw [text_append]
    simp only [List.length_append]
    omega
  · simp only [List.length_append, List.length_cons]
    omega

/-- A line that opens with a head and a colon is a definition. -/
theorem classify_text :
    classify (h.text ++ ':' :: body) = .definition h.head := by
  have hspace : (h.text ++ ':' :: body).dropWhile isSpace =
      h.marker ++ (h.name ++ (h.priority ++ (h.gap ++ ':' :: body))) := by
    rw [text_append]
    refine Text.dropWhile_append_of_stop (fun c hc => ?_) ?_
    · exact Text.isSpace_of_isBlank (List.all_eq_true.mp h.indent_blank c hc)
    · exact h.head?_marker (fun _ => isSpace_of_isWord) rfl rfl _
  have hopen := h.head?_marker (p := fun c => c == '%' || c == '/')
    (fun _ => beq_or_of_isWord (by decide) (by decide)) rfl rfl
    (h.priority ++ (h.gap ++ ':' :: body))
  unfold classify
  rw [hspace]
  split
  · next heq => rw [heq] at hopen; cases hopen
  · next heq => rw [heq] at hopen; cases hopen
  · rw [h.read?_text body]

end HeadText

end GrammarLint
