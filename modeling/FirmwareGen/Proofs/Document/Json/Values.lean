-- SUMMARY: Written JSON documents are read back.
import FirmwareGen.Proofs.Document.Json.Scalars
import FirmwareGen.Proofs.Document.Records
/-!
# Reading written documents

Reading a written value gives the value and stops where it ends. The layout adds only white space,
which the reader drops, and the text of a value is longer than it is deep, so that the fuel of a
whole document suffices. Main statement: a written document is read back.
-/

namespace FirmwareGen.Document.Json

/-! ## White space -/

theorem skipBlank_cons {c : Char} (hc : c ∉ [' ', '\t', '\n', '\r']) (text : List Char) :
    skipBlank (c :: text) = c :: text := by
  apply List.dropWhile_cons_of_neg
  simpa [or_assoc] using hc

theorem skipBlank_lineBreak (depth : Nat) (text : List Char) :
    skipBlank (lineBreak depth ++ text) = skipBlank text := by
  have hblank : ∀ c ∈ lineBreak depth, (c == ' ' || c == '\t' || c == '\n' || c == '\r') = true := by
    intro c hc
    rcases List.mem_cons.1 hc with rfl | hc
    · rfl
    · rw [List.eq_of_mem_replicate hc]
      rfl
  rw [skipBlank, List.dropWhile_append_of_pos hblank, ← skipBlank]

theorem length_lineBreak (depth : Nat) : (lineBreak depth).length = 2 * depth + 1 := by
  rw [lineBreak, List.length_cons, List.length_replicate]

/-- A value is read past the white space in front of it. -/
theorem readValue_congr {text text' : List Char} (hblank : skipBlank text = skipBlank text')
    (fuel : Nat) : readValue fuel text = readValue fuel text' := by
  cases fuel with
  | zero => rfl
  | succ fuel => rw [readValue, readValue, hblank]

/-! ## The first character of a value -/

theorem isDigit_or_minus (n : Int) :
    ∃ c text, (toString n).toList = c :: text ∧ (c.isDigit = true ∨ c = '-') := by
  cases n with
  | ofNat n =>
    obtain ⟨c, digits, hcons, hdigit⟩ := exists_toDigits_eq_cons n
    exact ⟨c, digits, (Text.toList_toString_ofNat n).trans hcons, .inl hdigit⟩
  | negSucc n => exact ⟨'-', _, Text.toList_toString_negSucc n, .inr rfl⟩

theorem not_mem_of_isDigit_or_minus {c : Char} (hc : c.isDigit = true ∨ c = '-') :
    c ∉ [' ', '\t', '\n', '\r', ']', 'n', 't', 'f', '"', '[', '\x7b'] := by
  have hother : ∀ d ∈ [' ', '\t', '\n', '\r', ']', 'n', 't', 'f', '"', '[', '\x7b'],
      d.isDigit = false ∧ d ≠ '-' := by
    simp
  intro hmem
  obtain ⟨hdigit, hminus⟩ := hother c hmem
  rcases hc with hc | hc
  · rw [hdigit] at hc
    cases hc
  · exact hminus hc

/-- A written value begins neither with white space nor with the end of an array. -/
theorem exists_printValue_eq_cons {value : Value} (hvalue : value.Exact) (depth : Nat) :
    ∃ c text, printValue depth value = c :: text ∧ c ∉ [' ', '\t', '\n', '\r', ']'] := by
  cases hvalue with
  | null => exact ⟨'n', _, rfl, by decide⟩
  | bool b => cases b <;> exact ⟨_, _, rfl, by decide⟩
  | int n =>
    obtain ⟨c, text, hcons, hc⟩ := isDigit_or_minus n
    refine ⟨c, text, hcons, fun hmem => not_mem_of_isDigit_or_minus hc ?_⟩
    exact List.mem_append_left ['n', 't', 'f', '"', '[', '\x7b'] hmem
  | string text => exact ⟨'"', _, rfl, by decide⟩
  | @array items _ => cases items <;> exact ⟨'[', _, rfl, by decide⟩
  | @object members _ => cases members <;> exact ⟨'\x7b', _, rfl, by decide⟩

theorem skipBlank_printValue {value : Value} (hvalue : value.Exact) (depth : Nat)
    (rest : List Char) :
    skipBlank (printValue depth value ++ rest) = printValue depth value ++ rest := by
  obtain ⟨c, text, hcons, hc⟩ := exists_printValue_eq_cons hvalue depth
  rw [hcons, List.cons_append, skipBlank_cons fun hmem => hc (List.mem_append_left [']'] hmem)]

/-! ## Values -/

/-- A written value is read up to where it ends, with as much fuel as it has characters. -/
def ReadsBack (value : Value) : Prop :=
  ∀ (depth fuel : Nat) (rest : List Char), (printValue depth value).length < fuel →
    EndsInteger rest → readValue fuel (printValue depth value ++ rest) = some (value, rest)

/-- Each of the forms of a value but the number has a first character of its own. -/
theorem readValue_number {c : Char} (hc : c.isDigit = true ∨ c = '-') (fuel : Nat)
    (text : List Char) : readValue (fuel + 1) (c :: text) = readNumber (c :: text) := by
  have hother := not_mem_of_isDigit_or_minus hc
  have hblank : c ∉ [' ', '\t', '\n', '\r'] := fun hmem => hother (List.mem_append_left _ hmem)
  have hfirst : ∀ {d : Char} {tail : List Char},
      d ∈ [' ', '\t', '\n', '\r', ']', 'n', 't', 'f', '"', '[', '\x7b'] →
        c :: text ≠ d :: tail :=
    fun hmem heq => hother ((List.cons.inj heq).1 ▸ hmem)
  rw [readValue, skipBlank_cons hblank]
  split
  case h_7 => rfl
  all_goals exact absurd ‹_› (hfirst (by decide))

theorem readsBack_int (n : Int) : ReadsBack (.int n) := by
  intro depth fuel rest hfuel hrest
  obtain ⟨fuel, rfl⟩ := Nat.exists_eq_succ_of_ne_zero (Nat.ne_zero_of_lt hfuel)
  obtain ⟨c, text, hcons, hc⟩ := isDigit_or_minus n
  have hnumber := readNumber_toString n hrest
  rw [hcons] at hnumber
  rw [printValue, hcons, List.cons_append, readValue_number hc]
  exact hnumber

theorem readsBack_string (text : String) : ReadsBack (.string text) := by
  intro depth fuel rest hfuel _
  obtain ⟨fuel, rfl⟩ := Nat.exists_eq_succ_of_ne_zero (Nat.ne_zero_of_lt hfuel)
  have htext := readText_quoted text rest
  rw [readValue, skipBlank_printValue (.string text)]
  simpa [printValue, quoted] using htext

/-! ## Arrays -/

/-- A comma and a line break end an integer. -/
theorem endsInteger_cons {c : Char} (hc : c ∈ [',', '\n']) (rest : List Char) :
    EndsInteger (c :: rest) := by
  have hends : ∀ c ∈ [',', '\n'], c.isDigit = false ∧ c ≠ '.' ∧ c ≠ 'e' ∧ c ≠ 'E' := by
    simp
  intro d hd
  cases hd
  exact hends c hc

theorem endsInteger_printItems (depth outer : Nat) (items : List Value) (rest : List Char) :
    EndsInteger (printItems depth items ++ (lineBreak outer ++ rest)) := by
  cases items <;> exact endsInteger_cons (by decide) _

/-- A value is read behind a line break, too. -/
theorem ReadsBack.behind_lineBreak {value : Value} (hread : ReadsBack value) (depth fuel : Nat)
    {rest : List Char} (hfuel : (printValue depth value).length < fuel) (hrest : EndsInteger rest) :
    readValue fuel (lineBreak depth ++ (printValue depth value ++ rest)) = some (value, rest) := by
  rw [readValue_congr (skipBlank_lineBreak depth _), hread depth fuel rest hfuel hrest]

/-- The items of an array are read up to its closing bracket. -/
theorem readItems_printItems (depth outer fuel : Nat) {item : Value} {items : List Value}
    (hread : ∀ value ∈ item :: items, ReadsBack value)
    (hfuel : (printValue depth item).length + (printItems depth items).length + 1 < fuel)
    (rest : List Char) :
    readItems fuel (lineBreak depth ++ (printValue depth item ++ (printItems depth items ++
      (lineBreak outer ++ ']' :: rest)))) = some (item :: items, rest) := by
  induction items generalizing item fuel with
  | nil =>
    obtain ⟨fuel, rfl⟩ := Nat.exists_eq_succ_of_ne_zero (Nat.ne_zero_of_lt hfuel)
    have hitem := (hread item List.mem_cons_self).behind_lineBreak depth fuel (by omega)
      (endsInteger_printItems depth outer [] (']' :: rest))
    rw [readItems, hitem]
    simp only [printItems, List.nil_append, skipBlank_lineBreak]
    rw [skipBlank_cons (by decide)]
    rfl
  | cons next items ih =>
    obtain ⟨fuel, rfl⟩ := Nat.exists_eq_succ_of_ne_zero (Nat.ne_zero_of_lt hfuel)
    have hlength : (printItems depth (next :: items)).length =
        1 + (2 * depth + 1) + (printValue depth next).length + (printItems depth items).length := by
      simp only [printItems, List.length_append, List.length_cons, length_lineBreak]
      omega
    have hitem := (hread item List.mem_cons_self).behind_lineBreak depth fuel (by omega)
      (endsInteger_printItems depth outer (next :: items) (']' :: rest))
    have hitems := ih fuel
      (fun value hvalue => hread value (List.mem_cons_of_mem _ hvalue)) (by omega)
    rw [readItems, hitem]
    simp only [printItems, List.cons_append, List.append_assoc]
    rw [skipBlank_cons (by decide)]
    simp only [hitems, Option.map_some]

theorem readsBack_array {items : List Value} (hexact : ∀ item ∈ items, item.Exact)
    (hread : ∀ item ∈ items, ReadsBack item) : ReadsBack (.array items) := by
  intro depth fuel rest hfuel _
  obtain ⟨fuel, rfl⟩ := Nat.exists_eq_succ_of_ne_zero (Nat.ne_zero_of_lt hfuel)
  rw [readValue, skipBlank_printValue (.array hexact)]
  cases items with
  | nil => rfl
  | cons item items =>
    have hlength : (printValue depth (.array (item :: items))).length =
        (printValue (depth + 1) item).length + (printItems (depth + 1) items).length +
          4 * depth + 6 := by
      simp only [printValue, List.length_append, List.length_cons, length_lineBreak, List.length_nil]
      omega
    have hitems := readItems_printItems (depth + 1) depth fuel hread (by omega) rest
    obtain ⟨c, text, hcons, hc⟩ :=
      exists_printValue_eq_cons (hexact item List.mem_cons_self) (depth + 1)
    simp only [printValue, List.cons_append, List.append_assoc, List.nil_append]
    rw [hitems, skipBlank_lineBreak, hcons, List.cons_append,
      skipBlank_cons fun hmem => hc (List.mem_append_left [']'] hmem)]
    split
    · next heq =>
      have hbracket : c ∈ [' ', '\t', '\n', '\r', ']'] := by
        rw [(List.cons.inj heq).1]
        decide
      exact absurd hbracket hc
    · rfl

/-! ## Objects -/

theorem readKey_quoted (depth : Nat) (key : String) (rest : List Char) :
    readKey (lineBreak depth ++ (quoted key ++ ':' :: rest)) = some (some key, rest) := by
  obtain ⟨marks, hread, hspell⟩ := readMarks_flatMap key.toList (':' :: rest)
  have hquoted : quoted key ++ ':' :: rest =
      '"' :: (key.toList.flatMap escapeChar ++ '"' :: ':' :: rest) := by
    simp only [quoted, List.append_assoc, List.cons_append, List.nil_append]
  rw [readKey, skipBlank_lineBreak, hquoted, skipBlank_cons (by decide)]
  simp only [hread]
  rw [skipBlank_cons (by decide)]
  simp only [hspell, Option.map_some, String.ofList_toList]

theorem endsInteger_printMembers (depth outer : Nat) (members : List (String × Value))
    (rest : List Char) : EndsInteger (printMembers depth members ++ (lineBreak outer ++ rest)) := by
  cases members <;> exact endsInteger_cons (by decide) _

/-- The value of a member is read behind the space in front of it. -/
theorem ReadsBack.behind_space {value : Value} (hread : ReadsBack value) (depth fuel : Nat)
    {rest : List Char} (hfuel : (printValue depth value).length < fuel) (hrest : EndsInteger rest) :
    readValue fuel (' ' :: (printValue depth value ++ rest)) = some (value, rest) := by
  have hblank : skipBlank (' ' :: (printValue depth value ++ rest)) =
      skipBlank (printValue depth value ++ rest) := rfl
  rw [readValue_congr hblank, hread depth fuel rest hfuel hrest]

/-- The members of an object are read up to its closing brace. -/
theorem readMembers_printMembers (depth outer fuel : Nat) {member : String × Value}
    {members : List (String × Value)} (hread : ∀ m ∈ member :: members, ReadsBack m.2)
    (hfuel : (printValue depth member.2).length + (printMembers depth members).length + 1 < fuel)
    (rest : List Char) :
    readMembers fuel (lineBreak depth ++ (quoted member.1 ++ ':' :: ' ' ::
      (printValue depth member.2 ++ (printMembers depth members ++
        (lineBreak outer ++ '\x7d' :: rest))))) =
      some ((member :: members).map fun m => (some m.1, m.2), rest) := by
  induction members generalizing member fuel with
  | nil =>
    obtain ⟨fuel, rfl⟩ := Nat.exists_eq_succ_of_ne_zero (Nat.ne_zero_of_lt hfuel)
    have hvalue := (hread member List.mem_cons_self).behind_space depth fuel (by omega)
      (endsInteger_printMembers depth outer [] ('\x7d' :: rest))
    rw [readMembers, readKey_quoted]
    simp only [hvalue]
    rw [printMembers, List.nil_append, skipBlank_lineBreak, skipBlank_cons (by decide)]
    rfl
  | cons next members ih =>
    obtain ⟨fuel, rfl⟩ := Nat.exists_eq_succ_of_ne_zero (Nat.ne_zero_of_lt hfuel)
    have hlength : (printMembers depth (next :: members)).length =
        1 + (2 * depth + 1) + (quoted next.1).length + 2 + (printValue depth next.2).length +
          (printMembers depth members).length := by
      simp only [printMembers, List.length_append, List.length_cons, length_lineBreak]
      omega
    have hvalue := (hread member List.mem_cons_self).behind_space depth fuel (by omega)
      (endsInteger_printMembers depth outer (next :: members) ('\x7d' :: rest))
    have hmembers := ih fuel (fun m hm => hread m (List.mem_cons_of_mem _ hm)) (by omega)
    rw [readMembers, readKey_quoted]
    simp only [hvalue]
    simp only [printMembers, List.cons_append, List.append_assoc]
    rw [skipBlank_cons (by decide)]
    simp only [hmembers, Option.map_some, List.map_cons]

theorem objectValue_some (members : List (String × Value)) :
    objectValue (members.map fun member => (some member.1, member.2)) = .object members := by
  have hkeys : ∀ named : Option String × Value → Option (String × Value),
      (∀ key value, named (some key, value) = some (key, value)) →
        (members.map fun member => (some member.1, member.2)).mapM named = some members := by
    intro named hnamed
    induction members with
    | nil => rfl
    | cons member members ih =>
      rw [List.map_cons, List.mapM_cons, hnamed, ih]
      rfl
  rw [objectValue, hkeys _ fun key value => rfl]

theorem readsBack_object {members : List (String × Value)}
    (hexact : ∀ member ∈ members, member.2.Exact) (hread : ∀ member ∈ members, ReadsBack member.2) :
    ReadsBack (.object members) := by
  intro depth fuel rest hfuel _
  obtain ⟨fuel, rfl⟩ := Nat.exists_eq_succ_of_ne_zero (Nat.ne_zero_of_lt hfuel)
  rw [readValue, skipBlank_printValue (.object hexact)]
  cases members with
  | nil => rfl
  | cons member members =>
    have hlength : (printValue depth (.object (member :: members))).length =
        (quoted member.1).length + (printValue (depth + 1) member.2).length +
          (printMembers (depth + 1) members).length + 4 * depth + 8 := by
      simp only [printValue, printObject, List.length_append, List.length_cons, length_lineBreak,
        List.length_nil]
      omega
    have hmembers := readMembers_printMembers (depth + 1) depth fuel hread (by omega) rest
    simp only [printValue, printObject, List.cons_append, List.append_assoc, List.nil_append]
    rw [hmembers, Option.map_some, objectValue_some, skipBlank_lineBreak]
    rfl

/-! ## Documents -/

theorem readsBack {value : Value} (hvalue : value.Exact) : ReadsBack value := by
  induction hvalue with
  | null =>
    intro depth fuel rest hfuel _
    obtain ⟨fuel, rfl⟩ := Nat.exists_eq_succ_of_ne_zero (Nat.ne_zero_of_lt hfuel)
    rfl
  | bool b =>
    intro depth fuel rest hfuel _
    obtain ⟨fuel, rfl⟩ := Nat.exists_eq_succ_of_ne_zero (Nat.ne_zero_of_lt hfuel)
    cases b <;> rfl
  | int n => exact readsBack_int n
  | string text => exact readsBack_string text
  | array hexact ih => exact readsBack_array hexact ih
  | object hexact ih => exact readsBack_object hexact ih

/-- A written document is read back. -/
theorem parse_print {value : Value} (hvalue : value.Exact) : parse (print value) = some value := by
  have hread := readsBack hvalue 0 ((printValue 0 value).length + 1) [] (Nat.lt_succ_self _)
    (by intro c hc; cases hc)
  rw [List.append_nil] at hread
  simp only [parse, print, String.toList_ofList, hread]
  rfl

end FirmwareGen.Document.Json
