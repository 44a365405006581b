import GrammarLint.Proofs.Words
import GrammarLint.Report.Findings

/-!
# Reading a report back from JSON

A report in JSON is an array of objects whose fields are texts and numbers. What
it tells is what a reader of JSON gets out of it, so this file has such a
reader, made from the rules of the format and not from the function that writes:
it skips blanks wherever they may stand, knows every escape, and joins two
surrogates to one character.

`read_arrayText` says that the reader gets back every array of objects that is
written the way the report writes them. The one fact with arithmetic in it is
that four digits stand for a unit of sixteen bits (`unit?_hexDigits`);
everything else is that a written part ends where the next one begins.
-/

namespace GrammarLint.Json

/-- The value of a field. -/
inductive Value where
  | text (t : Text)
  | number (n : Nat)
  deriving DecidableEq, Repr

/-- An object: its fields in order. -/
abbrev Object := List (Text × Value)

/-- The unit of sixteen bits that four hexadecimal digits stand for. -/
def unit? (cs : Text) : Option Nat :=
  if (cs.take 4).length = 4 ∧ (cs.take 4).all Text.isHex = true then
    some (Text.hexNumber (cs.take 4))
  else none

/-- The character of units in hexadecimal digits, and how many characters these
take. A unit of the first half of the surrogates needs one of the second half
behind it. -/
def unitEscape? (cs : Text) : Option (Char × Nat) :=
  match unit? cs with
  | none => none
  | some n =>
    if n < 0xd800 ∨ 0xdfff < n then some (Char.ofNat n, 4)
    else
      match cs.drop 4 with
      | '\\' :: 'u' :: ds =>
        match unit? ds with
        | some m =>
          if n < 0xdc00 ∧ 0xdc00 ≤ m ∧ m ≤ 0xdfff then
            some (Char.ofNat (0x10000 + (n - 0xd800) * 0x400 + (m - 0xdc00)),
              10)
          else none
        | none => none
      | _ => none

/-- The character that an escape stands for, and how many characters the escape
takes; the text starts past the backslash. -/
def escape? : Text → Option (Char × Nat)
  | '"' :: _ => some ('"', 1)
  | '\\' :: _ => some ('\\', 1)
  | '/' :: _ => some ('/', 1)
  | 'b' :: _ => some ('\x08', 1)
  | 'f' :: _ => some ('\x0c', 1)
  | 'n' :: _ => some ('\n', 1)
  | 'r' :: _ => some ('\r', 1)
  | 't' :: _ => some ('\t', 1)
  | 'u' :: cs => (unitEscape? cs).map fun r => (r.1, r.2 + 1)
  | _ => none

/-- A string from past its opening quote, and the text after it; `skip`
characters belong to an escape already read. -/
def readString : Nat → Text → Option (Text × Text)
  | _, [] => none
  | skip + 1, _ :: cs => readString skip cs
  | 0, c :: cs =>
    if c = '"' then some ([], cs)
    else if c = '\\' then
      match escape? cs with
      | some (e, size) => (readString size cs).map fun r => (e :: r.1, r.2)
      | none => none
    else if c < ' ' then none
    else (readString 0 cs).map fun r => (c :: r.1, r.2)

/-- A value, and the text after it. -/
def readValue : Text → Option (Value × Text)
  | '"' :: cs => (readString 0 cs).map fun r => (.text r.1, r.2)
  | cs =>
    if (cs.takeWhile Char.isDigit).isEmpty then none
    else some (.number (Nat.ofDigitChars 10 (cs.takeWhile Char.isDigit) 0),
      cs.dropWhile Char.isDigit)

/-- The blanks between the words of a document. -/
def isBlank (c : Char) : Bool := c == ' ' || c == '\t' || c == '\n' || c == '\r'

/-- The text after blanks. -/
def skipBlanks (cs : Text) : Text := cs.dropWhile isBlank

/-- One field, and the text after it and the blanks behind it. -/
def readField (cs : Text) : Option ((Text × Value) × Text) :=
  match skipBlanks cs with
  | '"' :: cs =>
    match readString 0 cs with
    | some (name, cs) =>
      match skipBlanks cs with
      | ':' :: cs =>
          (readValue (skipBlanks cs)).map fun r => ((name, r.1), skipBlanks r.2)
      | _ => none
    | none => none
  | _ => none

/-- The fields of an object from past its opening brace, and the text after it.
Every field takes a character, so the length of the text is fuel enough. -/
def readFields : Nat → Text → Option (Object × Text)
  | 0, _ => none
  | fuel + 1, cs =>
    match readField cs with
    | some (field, ',' :: cs) => (readFields fuel cs).map fun r =>
      (field :: r.1, r.2)
    | some (field, '\x7d' :: cs) => some ([field], cs)
    | _ => none

/-- The objects of an array that is not empty, from past its opening bracket,
and the text after it. -/
def readObjects : Nat → Text → Option (List Object × Text)
  | 0, _ => none
  | fuel + 1, cs =>
    match skipBlanks cs with
    | '\x7b' :: cs =>
      match readFields cs.length cs with
      | some (object, cs) =>
        match skipBlanks cs with
        | ',' :: cs => (readObjects fuel cs).map fun r => (object :: r.1, r.2)
        | ']' :: cs => some ([object], cs)
        | _ => none
      | none => none
    | _ => none

/-- A document that is an array of objects. -/
def read (cs : Text) : Option (List Object) :=
  match skipBlanks cs with
  | '[' :: cs =>
    let objects := match skipBlanks cs with
      | ']' :: cs => some ([], cs)
      | _ => readObjects cs.length cs
    match objects with
    | some (objects, rest) =>
        if (skipBlanks rest).isEmpty then some objects else none
    | none => none
  | _ => none

example : read "[ \x7b\"a\" : 10, \"b\":\"\\ud83d\\ude00\\/\"\x7d ]".toList =
    some [[(['a'], .number 10), (['b'], .text ['😀', '/'])]] := by decide +kernel

/-! ## Reading back

What was written is read back from the inside out: units of sixteen bits,
characters, strings, values, fields, objects, and at last the array. -/

theorem hexValue_digitChar {k : Nat} (h : k < 16) :
    Text.hexValue (Nat.digitChar k) = k := by
  revert k
  decide

theorem isHex_digitChar {k : Nat} (h : k < 16) :
    Text.isHex (Nat.digitChar k) = true := by
  revert k
  decide

theorem length_hexDigits (size n : Nat) :
    (Text.hexDigits size n).length = size := by
  induction size generalizing n with
  | zero => rfl
  | succ size ih =>
      rw [Text.hexDigits, List.length_append, ih, List.length_singleton]

theorem all_isHex_hexDigits (size n : Nat) :
    (Text.hexDigits size n).all Text.isHex = true := by
  induction size generalizing n with
  | zero => rfl
  | succ size ih =>
      rw [Text.hexDigits, List.all_append, ih, Bool.true_and, List.all_cons,
        isHex_digitChar (Nat.mod_lt n (by decide))]
      rfl

theorem hexNumber_concat (digits : Text) (c : Char) :
    Text.hexNumber (digits ++ [c]) =
      Text.hexNumber digits * 16 + Text.hexValue c := by
  simp only [Text.hexNumber, List.foldl_append, List.foldl_cons, List.foldl_nil]

theorem hexNumber_hexDigits (size n : Nat) :
    Text.hexNumber (Text.hexDigits size n) = n % Nat.pow 16 size := by
  induction size generalizing n with
  | zero => exact (Nat.mod_one n).symm
  | succ size ih =>
      show _ = n % (Nat.pow 16 size * 16)
      rw [Text.hexDigits, hexNumber_concat, ih,
        hexValue_digitChar (Nat.mod_lt n (by decide)),
        Nat.mul_comm (Nat.pow 16 size) 16, Nat.mod_mul]
      omega

theorem unit?_hexDigits {n : Nat} (h : n < 0x10000) (rest : Text) :
    unit? (Text.hexDigits 4 n ++ rest) = some n := by
  have htake : (Text.hexDigits 4 n ++ rest).take 4 = Text.hexDigits 4 n :=
    List.take_left' (length_hexDigits 4 n)
  rw [unit?, htake, if_pos ⟨length_hexDigits 4 n, all_isHex_hexDigits 4 n⟩,
    hexNumber_hexDigits]
  exact congrArg some (Nat.mod_eq_of_lt h)

theorem toNat_valid (c : Char) :
    c.toNat < 0xd800 ∨ 0xdfff < c.toNat ∧ c.toNat < 0x110000 := c.valid

theorem escape?_unit {c : Char} (h : c.toNat < 0x10000) (rest : Text) :
    escape? ('u' :: Text.hexDigits 4 c.toNat ++ rest) = some (c, 5) := by
  have hvalid := toNat_valid c
  have hunit : unitEscape? (Text.hexDigits 4 c.toNat ++ rest) =
      some (c, 4) := by
    simp only [unitEscape?, unit?_hexDigits h]
    rw [if_pos (by omega), Char.ofNat_toNat]
  rw [List.cons_append, escape?, hunit]
  rfl

theorem escape?_surrogates {c : Char} {n m : Nat} (hn : 0xd800 ≤ n ∧ n < 0xdc00)
    (hm : 0xdc00 ≤ m ∧ m ≤ 0xdfff)
    (hc : 0x10000 + (n - 0xd800) * 0x400 + (m - 0xdc00) = c.toNat)
    (rest : Text) :
    escape? ('u' :: Text.hexDigits 4 n ++ '\\' :: 'u' ::
    Text.hexDigits 4 m ++ rest) =
      some (c, 11) := by
  have hunit :
      unitEscape?
        (Text.hexDigits 4 n ++ '\\' :: 'u' :: (Text.hexDigits 4 m ++ rest)) =
      some (c, 10) := by
    simp only [unitEscape?, unit?_hexDigits (show n < 0x10000 by omega)]
    rw [if_neg (by omega), List.drop_left' (length_hexDigits 4 n)]
    simp only [unit?_hexDigits (show m < 0x10000 by omega)]
    rw [if_pos ⟨hn.2, hm⟩, hc, Char.ofNat_toNat]
  rw [List.cons_append, List.cons_append, List.append_assoc, List.cons_append,
    List.cons_append, escape?, hunit]
  rfl

/-- Characters of an escape are passed over. -/
theorem readString_skip (taken rest : Text) :
    readString taken.length (taken ++ rest) = readString 0 rest := by
  induction taken with
  | nil => rfl
  | cons c cs ih => rw [List.length_cons, List.cons_append, readString, ih]

theorem readString_escape {c : Char} (taken rest : Text)
    (h : escape? (taken ++ rest) = some (c, taken.length)) :
    readString 0 ('\\' :: taken ++ rest) =
      (readString 0 rest).map fun r => (c :: r.1, r.2) := by
  rw [List.cons_append, readString, if_neg (by decide), if_pos rfl, h]
  simp only [readString_skip]

theorem readString_surrogates {c : Char} {n m : Nat}
    (hn : 0xd800 ≤ n ∧ n < 0xdc00) (hm : 0xdc00 ≤ m ∧ m ≤ 0xdfff)
    (hc : 0x10000 + (n - 0xd800) * 0x400 + (m - 0xdc00) = c.toNat)
    (rest : Text) :
    readString 0 (Text.jsonUnit n ++ Text.jsonUnit m ++ rest) =
      (readString 0 rest).map fun r => (c :: r.1, r.2) := by
  refine readString_escape ('u' :: Text.hexDigits 4 n ++ '\\' :: 'u' ::
    Text.hexDigits 4 m) rest ?_
  rw [escape?_surrogates hn hm hc]
  simp [length_hexDigits]

/-- What the report writes for a character is read as that character. -/
theorem readString_jsonChar (c : Char) (rest : Text) :
    readString 0 (Text.jsonChar c ++ rest) =
      (readString 0 rest).map fun r => (c :: r.1, r.2) := by
  rw [Text.jsonChar]
  split
  · next h =>
      have hc : c = '"' ∨ c = '\\' := by simpa using h
      rcases hc with rfl | rfl
      · exact readString_escape ['"'] rest rfl
      · exact readString_escape ['\\'] rest rfl
  split
  · next h => exact h ▸ readString_escape ['n'] rest rfl
  split
  · next h => exact h ▸ readString_escape ['r'] rest rfl
  split
  · next h => exact h ▸ readString_escape ['t'] rest rfl
  split
  · next h => exact h ▸ readString_escape ['b'] rest rfl
  split
  · next h => exact h ▸ readString_escape ['f'] rest rfl
  split
  · next hquoted _ _ _ _ _ hplain =>
      have hne : ¬ c = '"' ∧ ¬ c = '\\' := by simpa using hquoted
      have hlow : ¬ c < ' ' := by
        rw [Bool.and_eq_true, decide_eq_true_eq] at hplain
        exact Char.not_lt.mpr hplain.1
      rw [List.singleton_append, readString, if_neg hne.1, if_neg hne.2,
        if_neg hlow]
  split
  · next hunit =>
      refine readString_escape ('u' :: Text.hexDigits 4 c.toNat) rest ?_
      rw [escape?_unit hunit, List.length_cons, length_hexDigits]
  · next hpair =>
      have hvalid := toNat_valid c
      exact readString_surrogates (by omega) (by omega) (by omega) rest

theorem readString_jsonChars (t rest : Text) :
    readString 0 (t.flatMap Text.jsonChar ++ '"' :: rest) = some (t, rest) := by
  induction t with
  | nil => rfl
  | cons c cs ih =>
      rw [List.flatMap_cons, List.append_assoc, readString_jsonChar, ih]
      rfl

/-- The value as the report writes it. -/
def Value.toText : Value → Text
  | .text t => Text.jsonString t
  | .number n => (toString n).toList

theorem toList_toString (n : Nat) :
    (toString n).toList = Nat.toDigits 10 n := by
  rw [Nat.toString_eq_ofList_toDigits, String.toList_ofList]

/-- A written value opens with a quote or with a digit. -/
theorem toText_opens (value : Value) :
    (∃ t, value = .text t) ∨ ∃ d ds, value.toText = d :: ds ∧
      d.isDigit = true := by
  cases value with
  | text t => exact .inl ⟨t, rfl⟩
  | number n =>
      cases hn : Nat.toDigits 10 n with
      | nil => exact absurd hn Nat.toDigits_ne_nil
      | cons d ds =>
          refine .inr ⟨d, ds, (toList_toString n).trans hn, ?_⟩
          exact Nat.isDigit_of_mem_toDigits (by decide) (by decide)
            (hn ▸ List.mem_cons_self)

theorem skipBlanks_toText (value : Value) (rest : Text) :
    skipBlanks (value.toText ++ rest) = value.toText ++ rest := by
  rcases toText_opens value with ⟨t, rfl⟩ | ⟨d, ds, hd, hdigit⟩
  · rfl
  · have hblank : ¬ isBlank d = true := by
      intro h
      simp only [isBlank, Bool.or_eq_true, beq_iff_eq] at h
      rcases h with ((rfl | rfl) | rfl) | rfl
      all_goals exact absurd hdigit (by decide)
    rw [hd, List.cons_append, skipBlanks, List.dropWhile_cons_of_neg hblank]

/-- A written value is read back, if no digit follows it. -/
theorem readValue_toText (value : Value) {rest : Text}
    (hrest : rest.head?.any Char.isDigit = false) :
    readValue (value.toText ++ rest) = some (value, rest) := by
  cases value with
  | text t =>
      rw [Value.toText, Text.jsonString, List.cons_append, List.cons_append,
        List.append_assoc, readValue, List.singleton_append,
        readString_jsonChars]
      rfl
  | number n =>
      have hdigits : ∀ c ∈ Nat.toDigits 10 n, c.isDigit = true :=
        fun c hc => Nat.isDigit_of_mem_toDigits (by decide) (by decide) hc
      rw [Value.toText, toList_toString, readValue]
      · rw [Text.takeWhile_append_of_stop hdigits hrest,
          Text.dropWhile_append_of_stop hdigits hrest, if_neg (by simp),
          Nat.ofDigitChars_ten_toDigits]
      · intro cs h
        have hquote : '"' ∈ Nat.toDigits 10 n := by
          cases hn : Nat.toDigits 10 n with
          | nil => exact absurd hn Nat.toDigits_ne_nil
          | cons d ds =>
              rw [hn, List.cons_append] at h
              exact (List.cons.inj h).1 ▸ List.mem_cons_self
        exact absurd (hdigits '"' hquote) (by decide)

theorem length_joinWith (c : Char) (separator : Text) (ts : List Text) :
    ts.length ≤ (Text.joinWith (c :: separator) ts).length + 1 := by
  induction ts with
  | nil => exact Nat.zero_le _
  | cons t ts ih =>
      cases ts with
      | nil => exact Nat.le_add_left 1 _
      | cons u us =>
          simp only [Text.joinWith, List.length_append,
            List.length_cons] at ih ⊢
          omega

/-- A field as the report writes it is read back. Its name must be one that is
written without escapes. -/
theorem readField_jsonField {name : String}
    (hname : name.toList.flatMap Text.jsonChar = name.toList) (value : Value)
    {blanks : Text} (hblanks : ∀ c ∈ blanks, isBlank c = true) (rest : Text)
    (hrest : rest.head?.any Char.isDigit = false) :
    readField (blanks ++ (Findings.jsonField name value.toText ++ rest)) =
      some ((name.toList, value), skipBlanks rest) := by
  have hwritten : Findings.jsonField name value.toText ++ rest =
    [' ', ' ', ' ', ' '] ++
      '"' :: (name.toList.flatMap Text.jsonChar ++ '"' :: ':' :: ' ' ::
        (value.toText ++ rest)) := by
    simp [Findings.jsonField, hname]
  have hfront :
      skipBlanks (blanks ++ (Findings.jsonField name value.toText ++ rest)) =
        '"' :: (name.toList.flatMap Text.jsonChar ++ '"' :: ':' :: ' ' ::
          (value.toText ++ rest)) := by
    rw [hwritten, skipBlanks, List.dropWhile_append_of_pos hblanks]
    exact Text.dropWhile_append_of_stop (by simp [isBlank]) rfl
  have hvalue : skipBlanks (' ' :: (value.toText ++ rest)) =
      value.toText ++ rest :=
    skipBlanks_toText value rest
  have hcolon : ∀ cs, skipBlanks (':' :: cs) = ':' :: cs := fun _ => rfl
  simp only [readField, hfront, readString_jsonChars, hcolon, hvalue,
    readValue_toText value hrest]
  rfl

/-- Fields as the report writes them. -/
def fieldsText (fields : List (String × Value)) : Text :=
  Text.joinWith [',', '\n']
    (fields.map fun field => Findings.jsonField field.1 field.2.toText)

/-- The object with these fields as the report writes it. -/
def objectText (fields : List (String × Value)) : Text :=
  "  \x7b\n".toList ++ fieldsText fields ++ "\n  \x7d".toList

/-- The object that is read for these fields. -/
def objectOf (fields : List (String × Value)) : Object :=
  fields.map fun field => (field.1.toList, field.2)

/-- There are fields, and their names are written without escapes. -/
def Plain (fields : List (String × Value)) : Prop :=
  fields ≠ [] ∧ ∀ field ∈ fields, field.1.toList.flatMap Text.jsonChar =
    field.1.toList

theorem skipBlanks_comma (cs : Text) : skipBlanks (',' :: cs) = ',' :: cs := rfl

theorem readFields_fields {fields : List (String × Value)}
    (hplain : Plain fields) {fuel : Nat} (hfuel : fields.length ≤ fuel)
    (rest : Text) :
    readFields fuel
      ('\n' :: (fieldsText fields ++ '\n' :: ' ' :: ' ' :: '\x7d' :: rest)) =
        some (objectOf fields, rest) := by
  have hbreak : ∀ c ∈ ['\n'], isBlank c = true :=
    List.forall_mem_singleton.mpr rfl
  induction fields generalizing fuel with
  | nil => exact absurd rfl hplain.1
  | cons field fields ih =>
      obtain ⟨fuel, rfl⟩ : ∃ k, fuel = k + 1 :=
        ⟨fuel - 1, by simp at hfuel; omega⟩
      have hname := hplain.2 field List.mem_cons_self
      cases fields with
      | nil =>
          have hread := readField_jsonField hname field.2 hbreak
            ('\n' :: ' ' :: ' ' :: '\x7d' :: rest) rfl
          rw [List.singleton_append] at hread
          simp only [readFields, fieldsText, List.map_cons, List.map_nil,
            Text.joinWith, hread]
          rfl
      | cons next fields =>
          have hread :=
            fun more => readField_jsonField hname field.2 hbreak
              (',' :: more) rfl
          have hlater : Plain (next :: fields) :=
            ⟨by simp,
              fun other h => hplain.2 other (List.mem_cons_of_mem field h)⟩
          have hnext := ih hlater (Nat.le_of_succ_le_succ hfuel)
          simp only [List.singleton_append, skipBlanks_comma] at hread
          simp only [fieldsText, List.map_cons] at hnext
          simp only [readFields, fieldsText, List.map_cons, Text.joinWith,
            List.append_assoc, List.cons_append, List.nil_append, hread, hnext]
          rfl

/-- A written object opens with a brace behind its blanks. -/
theorem skipBlanks_objectText (fields : List (String × Value)) (rest : Text) :
    skipBlanks ('\n' :: (objectText fields ++ rest)) =
      '\x7b' :: '\n' :: (fieldsText fields ++ '\n' :: ' ' :: ' ' :: '\x7d' ::
      rest) := by
  simp [objectText, skipBlanks, isBlank]

theorem length_le_fieldsText (fields : List (String × Value)) (rest : Text) :
    fields.length ≤ ('\n' :: (fieldsText fields ++ rest)).length := by
  have hjoined := length_joinWith ',' ['\n']
    (fields.map fun field => Findings.jsonField field.1 field.2.toText)
  rw [List.length_map] at hjoined
  rw [List.length_cons, List.length_append, fieldsText]
  omega

theorem readObjects_objects {objects : List (List (String × Value))}
    (hsome : objects ≠ []) (hplain : ∀ fields ∈ objects, Plain fields)
    {fuel : Nat} (hfuel : objects.length ≤ fuel) (rest : Text) :
    readObjects fuel
      ('\n' :: (Text.joinWith [',', '\n'] (objects.map objectText) ++
      '\n' :: ']' :: rest)) = some (objects.map objectOf, rest) := by
  induction objects generalizing fuel with
  | nil => exact absurd rfl hsome
  | cons fields objects ih =>
      obtain ⟨fuel, rfl⟩ : ∃ k, fuel = k + 1 :=
        ⟨fuel - 1, by simp at hfuel; omega⟩
      have hfields :=
        fun more => readFields_fields (hplain fields List.mem_cons_self)
          (length_le_fieldsText fields ('\n' :: ' ' :: ' ' :: '\x7d' :: more))
        more
      cases objects with
      | nil =>
          simp only [readObjects, List.map_cons, List.map_nil, Text.joinWith,
            skipBlanks_objectText, hfields]
          rfl
      | cons next objects =>
          have hnext :=
            ih (by simp)
              (fun other h => hplain other (List.mem_cons_of_mem fields h))
            (Nat.le_of_succ_le_succ hfuel)
          simp only [List.map_cons] at hnext
          simp only [readObjects, List.map_cons, Text.joinWith,
            List.append_assoc, List.cons_append, List.nil_append,
            skipBlanks_objectText, hfields, skipBlanks_comma, hnext]
          rfl

/-- The array of these objects as the report writes it. -/
def arrayText (objects : List (List (String × Value))) : Text :=
  match objects with
  | [] => "[]\n".toList
  | _ =>
      "[\n".toList ++ Text.joinWith [',', '\n'] (objects.map objectText) ++
      "\n]\n".toList

theorem joinWith_cons (separator t : Text) (ts : List Text) :
    ∃ tail, Text.joinWith separator (t :: ts) = t ++ tail := by
  cases ts with
  | nil => exact ⟨[], (List.append_nil t).symm⟩
  | cons u us => exact ⟨_, List.append_assoc t separator _⟩

theorem length_le_objects (objects : List (List (String × Value)))
    (rest : Text) :
    objects.length ≤
      ('\n' :: (Text.joinWith [',', '\n'] (objects.map objectText) ++
        rest)).length := by
  have hjoined := length_joinWith ',' ['\n'] (objects.map objectText)
  rw [List.length_map] at hjoined
  rw [List.length_cons, List.length_append]
  omega

/-- A written array of objects is read back. -/
theorem read_arrayText {objects : List (List (String × Value))}
    (hplain : ∀ fields ∈ objects, Plain fields) :
    read (arrayText objects) = some (objects.map objectOf) := by
  cases objects with
  | nil => rfl
  | cons fields objects =>
      have hobjects :=
        readObjects_objects (List.cons_ne_nil fields objects) hplain
          (length_le_objects (fields :: objects) ['\n', ']', '\n']) ['\n']
      have hwritten : arrayText (fields :: objects) = '[' :: '\n' ::
          (Text.joinWith [',', '\n'] ((fields :: objects).map objectText) ++
            ['\n', ']', '\n']) := by
        simp [arrayText]
      obtain ⟨tail, htail⟩ :=
        joinWith_cons [',', '\n'] (objectText fields) (objects.map objectText)
      have hopen := skipBlanks_objectText fields (tail ++ ['\n', ']', '\n'])
      rw [← List.append_assoc, ← htail, ← List.map_cons] at hopen
      have hbracket : ∀ cs, skipBlanks ('[' :: cs) = '[' :: cs := fun _ => rfl
      simp only [read, hwritten, hbracket, hopen, hobjects]
      rfl

end GrammarLint.Json
