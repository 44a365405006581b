import GrammarLint.Proofs.HeadText

/-!
# Which lines open a definition

`HeadText` writes a head and its colon down and reads it back. Here the other
direction is added: whatever the reader accepts is a written head, a colon and a
rest. So a line opens a definition exactly if it can be written that way.

There is only one way to write it. No part of a head has a colon, so the head
ends at the first colon of the line. The blanks in front are all there are,
because what follows them opens with a marker or the name. The name is as long
as it can be, since neither a priority nor a blank is a word character, and a
priority has no blank, so the gap is what is left behind it. A name of
underscores and digits belongs to both kinds of name, but it is one name with
one place on the line, and it counts as a terminal.
-/

namespace GrammarLint

open Text (isBlank isWord)

namespace Head

theorem exists_marker (t : Text) :
    ∃ marker ∈ [[], ['?'], ['!']], t = marker ++ skipMarker t := by
  unfold skipMarker
  split
  · exact ⟨['?'], by simp, rfl⟩
  · exact ⟨['!'], by simp, rfl⟩
  · exact ⟨[], by simp, rfl⟩

theorem exists_priority (t : Text) :
    ∃ priority, isPriority priority = true ∧
      t = priority ++ skipPriority t := by
  unfold skipPriority
  split
  · next cs =>
      split
      · next hdigit =>
          refine ⟨'.' :: cs.takeWhile Char.isDigit, ?_, ?_⟩
          · cases cs with
            | nil => cases hdigit
            | cons d ds =>
                have hd : d.isDigit = true := by simpa using hdigit
                simp [isPriority, List.takeWhile_cons_of_pos hd, hd]
          · rw [List.cons_append, List.takeWhile_append_dropWhile]
      · exact ⟨[], rfl, rfl⟩
  · exact ⟨[], rfl, rfl⟩

theorem spelled_of_ofName? {name : Text} {kind : SymbolKind}
    (h : SymbolKind.ofName? name = some kind) :
    (isTerminalName name || isRuleName name) = true := by
  rw [SymbolKind.ofName?] at h
  split at h
  · next hterminal => rw [hterminal, Bool.true_or]
  · split at h
    · next hrule => rw [hrule, Bool.or_true]
    · cases h

/-- A head that is read was written. -/
theorem exists_text {text : Text} {head : Head} (h : read? text = some head) :
    ∃ (written : HeadText) (rest : Text),
      text = written.text ++ ':' :: rest ∧ head = written.head := by
  have hread := h
  simp only [read?] at h
  split at h
  · cases h
  · next kind hkind =>
      split at h
      · next body hcolon =>
          obtain ⟨marker, hmarker, hmarked⟩ :=
            exists_marker (text.dropWhile isBlank)
          generalize skipMarker (text.dropWhile isBlank) = marked at *
          obtain ⟨priority, hpriority, hrest⟩ :=
            exists_priority (marked.dropWhile isWord)
          generalize skipPriority (marked.dropWhile isWord) = behind at *
          have hsplit :
              text = text.takeWhile isBlank ++ (marker ++
                (marked.takeWhile isWord ++
              (priority ++ (behind.takeWhile isBlank ++ ':' :: body)))) := by
            rw [← hcolon, List.takeWhile_append_dropWhile, ← hrest,
              List.takeWhile_append_dropWhile, ← hmarked,
              List.takeWhile_append_dropWhile]
          obtain ⟨written, hwritten⟩ :
              ∃ written : HeadText, text = written.text ++ ':' :: body :=
            ⟨⟨_, marker, _, priority, _, List.all_takeWhile, hmarker,
              spelled_of_ofName? hkind, hpriority,
              List.all_takeWhile⟩, by rw [HeadText.text_append]; exact hsplit⟩
          rw [hwritten, HeadText.read?_text] at hread
          exact ⟨written, body, hwritten, (Option.some.inj hread).symm⟩
      · cases h

end Head

namespace HeadText

variable (h : HeadText) (rest : Text)

theorem colon_notMem_text : ':' ∉ h.text := by
  simp only [text, List.mem_append, not_or]
  have hblank : ∀ {t : Text}, t.all isBlank = true → ':' ∉ t := by
    intro t ht hmem
    exact absurd (List.all_eq_true.mp ht ':' hmem) (by decide)
  refine ⟨⟨⟨⟨hblank h.indent_blank, fun hmem => ?_⟩, fun hmem => ?_⟩,
    fun hmem => ?_⟩, hblank h.gap_blank⟩
  · have hmarker := h.marker_legal
    simp only [List.mem_cons, List.not_mem_nil, or_false] at hmarker
    rcases hmarker with hm | hm | hm <;> simp [hm] at hmem
  · exact absurd (h.isRun_name.inside ':' hmem) (by decide)
  · rcases mem_priority h.priority_legal hmem with hdigit | hdot
    · exact absurd hdigit (by decide)
    · exact absurd hdot (by decide)

theorem idxOf_colon : (h.text ++ ':' :: rest).idxOf ':' = h.text.length := by
  rw [List.idxOf_append, if_neg h.colon_notMem_text, List.idxOf_cons_self,
    Nat.zero_add]

theorem takeWhile_isBlank :
    (h.text ++ ':' :: rest).takeWhile isBlank = h.indent := by
  rw [text_append]
  exact Text.takeWhile_append_of_stop (by simpa using h.indent_blank)
    (h.head?_marker (fun _ => isBlank_of_isWord) rfl rfl _)

theorem takeWhile_priority :
    (h.priority ++ h.gap).takeWhile (!isBlank ·) = h.priority := by
  refine Text.takeWhile_append_of_stop (fun c hc => ?_) ?_
  · rcases mem_priority h.priority_legal hc with hdigit | rfl
    · rw [isBlank_of_isWord (isWord_of_isDigit hdigit)]
      rfl
    · rfl
  · cases hgap : h.gap with
    | nil => rfl
    | cons c cs =>
        have hc :=
          List.all_eq_true.mp h.gap_blank c
            (by rw [hgap]; exact List.mem_cons_self)
        simp [hc]

variable {h rest} {other : HeadText} {rest' : Text}

theorem eq_of_text_eq (htext : other.text = h.text) : other = h := by
  have hread := other.read?_text []
  rw [htext, h.read?_text] at hread
  have hhead : h.head = other.head := Option.some.inj hread
  have hname : other.name = h.name := (congrArg Head.name hhead).symm
  have hstart : h.indent.length + h.marker.length =
      other.indent.length + other.marker.length := congrArg Head.nameStart hhead
  have hindent : other.indent = h.indent := by
    rw [← other.takeWhile_isBlank [], htext, h.takeWhile_isBlank []]
  simp only [text, List.append_assoc, hindent,
    List.append_cancel_left_eq] at htext
  obtain ⟨hmarker, htext⟩ :=
    List.append_inj htext (by rw [hindent] at hstart; omega)
  rw [hname, List.append_cancel_left_eq] at htext
  have hpriority : other.priority = h.priority := by
    rw [← other.takeWhile_priority, htext, h.takeWhile_priority]
  rw [hpriority, List.append_cancel_left_eq] at htext
  cases other
  cases h
  simp_all

theorem unique (htext : other.text ++ ':' :: rest' = h.text ++ ':' :: rest) :
    other = h ∧ rest' = rest := by
  have hlength : other.text.length = h.text.length := by
    rw [← other.idxOf_colon rest', htext, h.idxOf_colon]
  obtain ⟨hhead, hrest⟩ := List.append_inj htext hlength
  exact ⟨eq_of_text_eq hhead, (List.cons.inj hrest).2⟩

end HeadText

/-- A line opens a definition exactly if it is a written head, a colon and
anything behind it. It can be written so in one way only, and what is read is
told by that way: the name, where it starts, that it is a terminal exactly if it
is spelled as one, and that the body starts behind the first colon. What comes
behind the colon has no part in it. -/
theorem definition_head_exact (text : Text) :
    ((∃ head, Head.read? text = some head) ↔
      ∃ (h : HeadText) (rest : Text), text = h.text ++ ':' :: rest) ∧
    ∀ (h : HeadText) (rest : Text), text = h.text ++ ':' :: rest →
      (∀ (other : HeadText) (rest' : Text), text = other.text ++ ':' :: rest' →
        other = h ∧ rest' = rest) ∧
      (∃ head, Head.read? text = some head ∧ head.name = h.name ∧
        head.nameStart = h.indent.length + h.marker.length ∧
        head.bodyStart = text.idxOf ':' + 1 ∧
        (head.kind = .terminal ↔ isTerminalName h.name = true)) ∧
      ∀ rest', Head.read? (h.text ++ ':' :: rest') = Head.read? text := by
  constructor
  · constructor
    · intro hgiven
      obtain ⟨head, hread⟩ := hgiven
      obtain ⟨h, rest, htext, -⟩ := Head.exists_text hread
      exact ⟨h, rest, htext⟩
    · intro hgiven
      obtain ⟨h, rest, rfl⟩ := hgiven
      exact ⟨h.head, h.read?_text rest⟩
  · intro h rest heq
    subst heq
    refine ⟨fun other rest' hother => HeadText.unique hother.symm,
      ⟨h.head, h.read?_text rest, rfl, rfl, ?_, ?_⟩, fun rest' => ?_⟩
    · rw [h.idxOf_colon]
      rfl
    · show SymbolKind.ofName h.name = .terminal ↔ _
      rw [SymbolKind.ofName]
      split <;> simp_all
    · rw [h.read?_text, h.read?_text]

end GrammarLint
