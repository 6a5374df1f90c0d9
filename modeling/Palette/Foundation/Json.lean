import Palette.Foundation.JsonTokens

/-!
# JSON texts

The reader is that of a usual decoder: besides the values of the standard it takes three
constants for the numbers that are not finite. The writer puts a blank behind each comma and
each colon.

The strings of a value that is written are lists of bytes, those of a value that was read are
lists of code points. What the writer writes is read as the value that was written if and
only if the bytes of each string are UTF-8.
-/

namespace Palette.Foundation.Json

/-! ## Values -/

/-- The numbers that are not finite. -/
inductive Constant where
  | nan
  | infinity
  | negativeInfinity
  deriving DecidableEq, Repr

/-- How a constant is written. -/
def Constant.name : Constant → List Nat
  | nan => codes "NaN"
  | infinity => codes "Infinity"
  | negativeInfinity => codes "-Infinity"

/-- A value. The members of an object stand in their order. -/
inductive Value where
  | null
  | bool (flag : Bool)
  | number (literal : List Nat)
  | constant (name : Constant)
  | text (points : List Nat)
  | list (items : List Value)
  | object (members : List (List Nat × Value))

namespace Value

/-- What holds of a value if it holds of its parts holds of every value. -/
@[elab_as_elim]
theorem induct {motive : Value → Prop} (null : motive null) (bool : ∀ flag, motive (bool flag))
    (number : ∀ literal, motive (number literal)) (constant : ∀ name, motive (constant name))
    (text : ∀ points, motive (text points))
    (list : ∀ items, (∀ item ∈ items, motive item) → motive (list items))
    (object : ∀ members, (∀ entry ∈ members, motive entry.2) → motive (object members)) :
    ∀ value, motive value := by
  intro value
  refine @Value.rec motive (fun items => ∀ item ∈ items, motive item)
    (fun members => ∀ entry ∈ members, motive entry.2) (fun entry => motive entry.2)
    null bool number constant text list object ?_ ?_ ?_ ?_ ?_ value
  · exact fun item member => absurd member List.not_mem_nil
  · exact fun item items first others => List.forall_mem_cons.mpr ⟨first, others⟩
  · exact fun entry member => absurd member List.not_mem_nil
  · exact fun entry members first others => List.forall_mem_cons.mpr ⟨first, others⟩
  · exact fun key value holds => holds

mutual

/-- The text of a value. -/
def render : Value → List Nat
  | null => codes "null"
  | bool flag => codes (if flag then "true" else "false")
  | number literal => literal
  | constant name => name.name
  | text points => quoted points
  | list items => code '[' :: renderItems items ++ [code ']']
  | object members => code '{' :: renderMembers members ++ [code '}']

/-- The texts of the items with commas between them. -/
def renderItems : List Value → List Nat
  | [] => []
  | item :: more =>
    render item ++ (if more.isEmpty then [] else codes ", " ++ renderItems more)

/-- The texts of the members with commas between them. -/
def renderMembers : List (List Nat × Value) → List Nat
  | [] => []
  | (key, value) :: more =>
    quoted key ++ codes ": " ++ render value ++
      (if more.isEmpty then [] else codes ", " ++ renderMembers more)

end

mutual

/-- The value with its strings decoded. -/
def decode : Value → Option Value
  | null => some null
  | bool flag => some (bool flag)
  | number literal => some (number literal)
  | constant name => some (constant name)
  | text points => (utf8 points).map text
  | list items => (decodeItems items).map list
  | object members => (decodeMembers members).map object

/-- The items with their strings decoded. -/
def decodeItems : List Value → Option (List Value)
  | [] => some []
  | item :: more =>
    match decode item, decodeItems more with
    | some first, some others => some (first :: others)
    | _, _ => none

/-- The members with their strings decoded. -/
def decodeMembers : List (List Nat × Value) → Option (List (List Nat × Value))
  | [] => some []
  | (key, value) :: more =>
    match utf8 key, decode value, decodeMembers more with
    | some points, some first, some others => some ((points, first) :: others)
    | _, _, _ => none

end

mutual

/-- Every number in the value is one. -/
def Numeric : Value → Prop
  | number literal => Json.number literal = some (literal, [])
  | list items => NumericItems items
  | object members => NumericMembers members
  | _ => True

/-- Every number in the items is one. -/
def NumericItems : List Value → Prop
  | [] => True
  | item :: more => Numeric item ∧ NumericItems more

/-- Every number in the members is one. -/
def NumericMembers : List (List Nat × Value) → Prop
  | [] => True
  | (_, value) :: more => Numeric value ∧ NumericMembers more

end

mutual

/-- The value has no constants, which the standard does not have. -/
def standard : Value → Bool
  | constant _ => false
  | list items => standardItems items
  | object members => standardMembers members
  | _ => true

/-- The items have no constants. -/
def standardItems : List Value → Bool
  | [] => true
  | item :: more => standard item && standardItems more

/-- The members have no constants. -/
def standardMembers : List (List Nat × Value) → Bool
  | [] => true
  | (_, value) :: more => standard value && standardMembers more

end

end Value

/-! ## Reading -/

/-- The characters between the tokens. -/
def isSpace (byte : Nat) : Bool :=
  byte = code ' ' || byte = 0x09 || byte = 0x0A || byte = 0x0D

/-- What follows the blanks. -/
def skip (input : List Nat) : List Nat := input.dropWhile isSpace

/-- What follows a word. -/
def keyword (word input : List Nat) : Option (List Nat) :=
  if word.isPrefixOf input then some (input.drop word.length) else none

/-- A value without parts that is no string, and what follows it. -/
def scalar (input : List Nat) : Option (Value × List Nat) :=
  (keyword (codes "null") input).map (fun rest => (.null, rest)) <|>
  (keyword (codes "true") input).map (fun rest => (.bool true, rest)) <|>
  (keyword (codes "false") input).map (fun rest => (.bool false, rest)) <|>
  (keyword (codes "NaN") input).map (fun rest => (.constant .nan, rest)) <|>
  (keyword (codes "Infinity") input).map (fun rest => (.constant .infinity, rest)) <|>
  (keyword (codes "-Infinity") input).map (fun rest => (.constant .negativeInfinity, rest)) <|>
  (number input).map fun found => (.number found.1, found.2)

mutual

/-- A value and what follows it. The fuel bounds the number of its characters. -/
def value : Nat → List Nat → Option (Value × List Nat)
  | 0, _ => none
  | _ + 1, [] => none
  | fuel + 1, byte :: rest =>
    if byte = quote then (string [] rest).map fun found => (.text found.1, found.2)
    else if byte = code '[' then
      match skip rest with
      | [] => none
      | next :: more =>
        if next = code ']' then some (.list [], more)
        else (items fuel (next :: more)).map fun found => (.list found.1, found.2)
    else if byte = code '{' then
      match skip rest with
      | [] => none
      | next :: more =>
        if next = code '}' then some (.object [], more)
        else (members fuel (next :: more)).map fun found => (.object found.1, found.2)
    else scalar (byte :: rest)

/-- The items of a list from one of them on, and what follows the list. -/
def items : Nat → List Nat → Option (List Value × List Nat)
  | 0, _ => none
  | fuel + 1, input =>
    match value fuel input with
    | none => none
    | some (item, rest) =>
      match skip rest with
      | [] => none
      | next :: more =>
        if next = code ']' then some ([item], more)
        else if next = code ',' then
          (items fuel (skip more)).map fun found => (item :: found.1, found.2)
        else none

/-- The members of an object from one of them on, and what follows the object. -/
def members : Nat → List Nat → Option (List (List Nat × Value) × List Nat)
  | 0, _ => none
  | _ + 1, [] => none
  | fuel + 1, byte :: rest =>
    if byte = quote then
      match string [] rest with
      | none => none
      | some (key, rest) =>
        match skip rest with
        | [] => none
        | colon :: rest =>
          if colon = code ':' then
            match value fuel (skip rest) with
            | none => none
            | some (found, rest) =>
              match skip rest with
              | [] => none
              | next :: more =>
                if next = code '}' then some ([(key, found)], more)
                else if next = code ',' then
                  (members fuel (skip more)).map fun others =>
                    ((key, found) :: others.1, others.2)
                else none
          else none
    else none

end

/-- `json.loads`. -/
def loads (input : List Nat) : Option Value :=
  match value (input.length + 1) (skip input) with
  | some (found, rest) => if skip rest = [] then some found else none
  | none => none

/-! ## Reading what was written -/

/-- A word that begins with another character is not there. -/
theorem keyword_of_ne {first head : Nat} (word rest : List Nat) (differs : first ≠ head) :
    keyword (first :: word) (head :: rest) = none := by
  simp [keyword, List.isPrefixOf, differs]

/-- A number is read as it is. -/
theorem scalar_number {literal rest : List Nat} (numeric : number literal = some (literal, []))
    (ends : Ends rest) : scalar (literal ++ rest) = some (.number literal, rest) := by
  have read : number (literal ++ rest) = some (literal, rest) := number_append ends numeric
  obtain ⟨head, others, rfl, begins⟩ := number_head numeric
  have digit_ne (byte : Nat) (digit : isDigit byte = true) (letter : Nat)
      (other : isDigit letter = false) : letter ≠ byte := by
    rintro rfl
    rw [digit] at other
    cases other
  have none (first : Nat) (word : List Nat) (letter : isDigit first = false)
      (notMinus : first ≠ code '-') : keyword (first :: word) (head :: others ++ rest) = none := by
    refine keyword_of_ne word _ ?_
    rcases begins with digit | ⟨rfl, -⟩
    · exact digit_ne head digit first letter
    · exact notMinus
  have noInfinity : keyword (codes "-Infinity") (head :: others ++ rest) = Option.none := by
    rcases begins with digit | ⟨rfl, next, more, rfl, digit⟩
    · exact keyword_of_ne _ _ (digit_ne head digit _ (by decide))
    · have letter := digit_ne next digit (code 'I') (by decide)
      simp [keyword, codes, List.isPrefixOf, letter]
  unfold scalar
  rw [noInfinity, read]
  rw [show keyword (codes "null") (head :: others ++ rest) = Option.none from
      none _ _ (by decide) (by decide),
    show keyword (codes "true") (head :: others ++ rest) = Option.none from
      none _ _ (by decide) (by decide),
    show keyword (codes "false") (head :: others ++ rest) = Option.none from
      none _ _ (by decide) (by decide),
    show keyword (codes "NaN") (head :: others ++ rest) = Option.none from
      none _ _ (by decide) (by decide),
    show keyword (codes "Infinity") (head :: others ++ rest) = Option.none from
      none _ _ (by decide) (by decide)]
  rfl

/-- The first character of a number. -/
theorem begins_with_digit {literal left : List Nat} {head : Nat} {rest : List Nat}
    (numeric : number literal = some (literal, left)) (begins : literal = head :: rest) :
    code '0' ≤ head ∧ head ≤ code '9' ∨ head = code '-' := by
  obtain ⟨first, others, same, digit | ⟨minus, -⟩⟩ := number_head numeric
  · obtain ⟨rfl, rfl⟩ := List.cons.inj (begins.symm.trans same)
    exact .inl (by simpa [isDigit] using digit)
  · obtain ⟨rfl, rfl⟩ := List.cons.inj (begins.symm.trans same)
    exact .inr minus

/-- A value does not begin with a blank nor with the end of a list or an object. -/
theorem render_head (value : Value) (numeric : value.Numeric) : ∃ head rest,
    value.render = head :: rest ∧ isSpace head = false ∧ head ≠ code ']' ∧ head ≠ code '}' := by
  cases value with
  | null => exact ⟨_, _, rfl, by decide, by decide, by decide⟩
  | bool flag => cases flag <;> exact ⟨_, _, rfl, by decide, by decide, by decide⟩
  | number literal =>
    obtain ⟨head, rest, rfl, -⟩ := number_head numeric
    refine ⟨head, rest, rfl, ?_⟩
    have bounds := begins_with_digit numeric rfl
    have values : code '0' = 48 ∧ code '9' = 57 ∧ code '-' = 45 ∧ code ' ' = 32 ∧
        code ']' = 93 ∧ code '}' = 125 := by decide
    simp only [isSpace, Bool.or_eq_false_iff, decide_eq_false_iff_not]
    omega
  | constant name => cases name <;> exact ⟨_, _, rfl, by decide, by decide, by decide⟩
  | text points => exact ⟨_, _, rfl, by decide, by decide, by decide⟩
  | list items => exact ⟨_, _, rfl, by decide, by decide, by decide⟩
  | object members => exact ⟨_, _, rfl, by decide, by decide, by decide⟩

/-- Blanks are skipped up to a value. -/
theorem skip_render (value : Value) (numeric : value.Numeric) (rest : List Nat) :
    skip (value.render ++ rest) = value.render ++ rest := by
  obtain ⟨head, others, begins, notSpace, -⟩ := render_head value numeric
  simp [begins, skip, notSpace]

/-- A character that goes on with no number. -/
theorem ends_of_code {byte : Nat} (rest : List Nat) (other : isNumeric byte = false) :
    Ends (byte :: rest) := by
  simpa [Ends] using other

/-- The value is read where it was written. -/
def Reads (written : Value) : Prop :=
  ∀ fuel rest, written.render.length ≤ fuel → Ends rest →
    value fuel (written.render ++ rest) = written.decode.map fun found => (found, rest)

/-- A scalar is read where it was written. -/
theorem reads_of_scalar {written : Value} (some : written.render ≠ [])
    (head : ∀ byte ∈ written.render.head?,
      byte ≠ quote ∧ byte ≠ code '[' ∧ byte ≠ code '{')
    (read : ∀ rest, Ends rest → scalar (written.render ++ rest) = Option.some (written, rest))
    (decoded : written.decode = Option.some written) : Reads written := by
  intro fuel rest enough ends
  obtain ⟨byte, others, begins⟩ := List.exists_cons_of_ne_nil some
  have found := read rest ends
  rw [begins] at enough head found ⊢
  obtain ⟨notQuote, notList, notObject⟩ := head byte rfl
  cases fuel with
  | zero => simp at enough
  | succ fuel =>
    rw [decoded, List.cons_append, value, if_neg notQuote, if_neg notList, if_neg notObject,
      ← List.cons_append, found]
    rfl

theorem decodeItems_cons (item : Value) (more : List Value) :
    Value.decodeItems (item :: more) =
      item.decode.bind fun first => (Value.decodeItems more).map fun others => first :: others := by
  rw [Value.decodeItems]
  cases item.decode with
  | none => rfl
  | some first => cases Value.decodeItems more <;> rfl

theorem decodeMembers_cons (key : List Nat) (value : Value) (more : List (List Nat × Value)) :
    Value.decodeMembers ((key, value) :: more) =
      (utf8 key).bind fun points => value.decode.bind fun first =>
        (Value.decodeMembers more).map fun others => (points, first) :: others := by
  rw [Value.decodeMembers]
  cases utf8 key with
  | none => rfl
  | some points =>
    cases value.decode with
    | none => rfl
    | some first => cases Value.decodeMembers more <;> rfl

/-- The items of a list are read where they were written. -/
theorem items_render {written : List Value} (nonempty : written ≠ [])
    (numeric : ∀ item ∈ written, item.Numeric) (reads : ∀ item ∈ written, Reads item)
    (fuel : Nat) (rest : List Nat) (enough : (Value.renderItems written).length < fuel) :
    items fuel (Value.renderItems written ++ code ']' :: rest) =
      (Value.decodeItems written).map fun found => (found, rest) := by
  induction written generalizing fuel with
  | nil => exact absurd rfl nonempty
  | cons item more inductionHypothesis =>
    obtain ⟨first, others⟩ := List.forall_mem_cons.mp reads
    obtain ⟨-, othersNumeric⟩ := List.forall_mem_cons.mp numeric
    cases fuel with
    | zero => exact absurd enough (Nat.not_lt_zero _)
    | succ fuel =>
      cases more with
      | nil =>
        simp only [Value.renderItems, List.isEmpty_nil, ite_true, List.append_nil] at enough ⊢
        have ends : Ends (code ']' :: rest) := ends_of_code rest (by decide)
        have closing : skip (code ']' :: rest) = code ']' :: rest := rfl
        rw [items, first fuel _ (by omega) ends, decodeItems_cons]
        cases item.decode with
        | none => rfl
        | some found => simp [Value.decodeItems, closing]
      | cons next later =>
        have text : Value.renderItems (item :: next :: later) = item.render ++
            code ',' :: code ' ' :: Value.renderItems (next :: later) := rfl
        rw [text] at enough ⊢
        simp only [List.length_append, List.length_cons] at enough
        have remaining := inductionHypothesis (List.cons_ne_nil _ _) othersNumeric others fuel
          (by omega)
        have ends (rest : List Nat) : Ends (code ',' :: rest) := ends_of_code rest (by decide)
        have comma (rest : List Nat) : skip (code ',' :: rest) = code ',' :: rest := rfl
        have blank : skip (code ' ' :: (Value.renderItems (next :: later) ++ code ']' :: rest)) =
            Value.renderItems (next :: later) ++ code ']' :: rest := by
          have begins := skip_render next (othersNumeric next List.mem_cons_self)
          rw [Value.renderItems, List.append_assoc]
          exact begins _
        rw [List.append_assoc, List.cons_append, List.cons_append, items,
          first fuel _ (by omega) (ends _), decodeItems_cons]
        cases item.decode with
        | none => rfl
        | some found =>
          have notClosing : code ',' ≠ code ']' := by decide
          simp only [Option.map_some, comma, notClosing, blank, remaining, ite_true, ite_false]
          cases Value.decodeItems (next :: later) <;> rfl

/-- The members of an object are read where they were written. -/
theorem members_render {written : List (List Nat × Value)} (nonempty : written ≠ [])
    (numeric : ∀ entry ∈ written, entry.2.Numeric) (reads : ∀ entry ∈ written, Reads entry.2)
    (fuel : Nat) (rest : List Nat) (enough : (Value.renderMembers written).length < fuel) :
    members fuel (Value.renderMembers written ++ code '}' :: rest) =
      (Value.decodeMembers written).map fun found => (found, rest) := by
  induction written generalizing fuel with
  | nil => exact absurd rfl nonempty
  | cons entry more inductionHypothesis =>
    obtain ⟨key, entryValue⟩ := entry
    obtain ⟨first, others⟩ := List.forall_mem_cons.mp reads
    obtain ⟨firstNumeric, othersNumeric⟩ := List.forall_mem_cons.mp numeric
    change Reads entryValue at first
    -- The key, the colon and the blank behind it.
    have key_read (fuel : Nat) (after : List Nat) :
        members (fuel + 1) (quoted key ++ codes ": " ++ entryValue.render ++ after) =
          (utf8 key).bind fun points =>
            match value fuel (entryValue.render ++ after) with
            | none => none
            | some (found, rest) =>
              match skip rest with
              | [] => none
              | next :: more =>
                if next = code '}' then some ([(points, found)], more)
                else if next = code ',' then
                  (members fuel (skip more)).map fun others =>
                    ((points, found) :: others.1, others.2)
                else none := by
      have text : quoted key ++ codes ": " ++ entryValue.render ++ after =
          quote :: (key.flatMap escape ++ quote ::
            (code ':' :: code ' ' :: (entryValue.render ++ after))) := by
        simp [quoted, codes]
      have colon (rest : List Nat) : skip (code ':' :: rest) = code ':' :: rest := rfl
      have blank : skip (code ' ' :: (entryValue.render ++ after)) = entryValue.render ++ after :=
        skip_render entryValue firstNumeric after
      rw [text, members, if_pos rfl, string_written, List.nil_append]
      cases utf8 key with
      | none => rfl
      | some points =>
        simp only [Option.map_some, colon, blank, ite_true]
        rfl
    cases fuel with
    | zero => exact absurd enough (Nat.not_lt_zero _)
    | succ fuel =>
      cases more with
      | nil =>
        have text : Value.renderMembers [(key, entryValue)] =
            quoted key ++ codes ": " ++ entryValue.render := by
          simp [Value.renderMembers]
        rw [text] at enough ⊢
        simp only [List.length_append] at enough
        have ends : Ends (code '}' :: rest) := ends_of_code rest (by decide)
        have closing : skip (code '}' :: rest) = code '}' :: rest := rfl
        rw [key_read, first fuel _ (by omega) ends, decodeMembers_cons]
        cases utf8 key with
        | none => rfl
        | some points =>
          cases entryValue.decode with
          | none => rfl
          | some found => simp [Value.decodeMembers, closing]
      | cons next later =>
        have text : Value.renderMembers ((key, entryValue) :: next :: later) ++ code '}' :: rest =
            quoted key ++ codes ": " ++ entryValue.render ++ (code ',' :: code ' ' ::
              (Value.renderMembers (next :: later) ++ code '}' :: rest)) := by
          rw [Value.renderMembers]
          simp [codes]
        have size : (Value.renderMembers ((key, entryValue) :: next :: later)).length =
            (quoted key).length + 2 + entryValue.render.length + 2 +
              (Value.renderMembers (next :: later)).length := by
          rw [Value.renderMembers]
          simp [codes]
          omega
        rw [text]
        have remaining := inductionHypothesis (List.cons_ne_nil _ _) othersNumeric others fuel
          (by omega)
        have ends (rest : List Nat) : Ends (code ',' :: rest) := ends_of_code rest (by decide)
        have comma (rest : List Nat) : skip (code ',' :: rest) = code ',' :: rest := rfl
        have blank : skip (code ' ' :: (Value.renderMembers (next :: later) ++
            code '}' :: rest)) = Value.renderMembers (next :: later) ++ code '}' :: rest := rfl
        rw [key_read, first fuel _ (by omega) (ends _), decodeMembers_cons]
        cases utf8 key with
        | none => rfl
        | some points =>
          cases entryValue.decode with
          | none => rfl
          | some found =>
            have notClosing : code ',' ≠ code '}' := by decide
            simp only [Option.bind_some, Option.map_some, comma, notClosing, blank, remaining,
              ite_true, ite_false]
            cases Value.decodeMembers (next :: later) <;> rfl

theorem numericItems_iff (items : List Value) :
    Value.NumericItems items ↔ ∀ item ∈ items, item.Numeric := by
  induction items with
  | nil => simp [Value.NumericItems]
  | cons item more inductionHypothesis => simp [Value.NumericItems, inductionHypothesis]

theorem numericMembers_iff (members : List (List Nat × Value)) :
    Value.NumericMembers members ↔ ∀ entry ∈ members, entry.2.Numeric := by
  induction members with
  | nil => simp [Value.NumericMembers]
  | cons entry more inductionHypothesis =>
    simp only [Value.NumericMembers, inductionHypothesis, List.forall_mem_cons]

/-- No control character is written. -/
theorem render_printable (written : Value) (numeric : written.Numeric) :
    ∀ byte ∈ written.render, 0x20 ≤ byte := by
  have string_printable (points : List Nat) : ∀ byte ∈ quoted points, 0x20 ≤ byte := by
    have mark : 0x20 ≤ quote := by decide
    simp only [quoted, List.cons_append, List.forall_mem_cons, List.forall_mem_append,
      List.mem_flatMap]
    refine ⟨mark, ?_, mark, fun byte member => absurd member List.not_mem_nil⟩
    rintro byte ⟨point, -, member⟩
    exact escape_printable point byte member
  have comma : ∀ byte ∈ codes ", ", 0x20 ≤ byte := by decide
  have colon : ∀ byte ∈ codes ": ", 0x20 ≤ byte := by decide
  induction written using Value.induct with
  | null => decide
  | bool flag => cases flag <;> decide
  | number literal => exact fun byte member => (number_printable numeric byte member).1
  | constant name => cases name <;> decide
  | text points => exact string_printable points
  | list items printable =>
    rw [Value.Numeric, numericItems_iff] at numeric
    have inner : ∀ byte ∈ Value.renderItems items, 0x20 ≤ byte := by
      induction items with
      | nil => simp [Value.renderItems]
      | cons item more inductionHypothesis =>
        obtain ⟨first, others⟩ := List.forall_mem_cons.mp printable
        obtain ⟨firstNumeric, othersNumeric⟩ := List.forall_mem_cons.mp numeric
        rw [Value.renderItems, List.forall_mem_append]
        refine ⟨first firstNumeric, ?_⟩
        split
        · exact fun byte member => absurd member List.not_mem_nil
        · exact List.forall_mem_append.mpr ⟨comma, inductionHypothesis others othersNumeric⟩
    simp only [Value.render, List.cons_append, List.forall_mem_cons, List.forall_mem_append]
    exact ⟨by decide, inner, by decide, fun byte member => absurd member List.not_mem_nil⟩
  | object members printable =>
    rw [Value.Numeric, numericMembers_iff] at numeric
    have inner : ∀ byte ∈ Value.renderMembers members, 0x20 ≤ byte := by
      induction members with
      | nil => simp [Value.renderMembers]
      | cons entry more inductionHypothesis =>
        obtain ⟨first, others⟩ := List.forall_mem_cons.mp printable
        obtain ⟨firstNumeric, othersNumeric⟩ := List.forall_mem_cons.mp numeric
        rw [Value.renderMembers]
        simp only [List.forall_mem_append]
        refine ⟨⟨⟨string_printable _, colon⟩, first firstNumeric⟩, ?_⟩
        split
        · exact fun byte member => absurd member List.not_mem_nil
        · exact List.forall_mem_append.mpr ⟨comma, inductionHypothesis others othersNumeric⟩
    simp only [Value.render, List.cons_append, List.forall_mem_cons, List.forall_mem_append]
    exact ⟨by decide, inner, by decide, fun byte member => absurd member List.not_mem_nil⟩

/-- What was written is read as the value with its strings decoded. -/
theorem reads_of_numeric (written : Value) (numeric : written.Numeric) : Reads written := by
  induction written using Value.induct with
  | null => exact reads_of_scalar (by decide) (by decide) (fun rest _ => rfl) rfl
  | bool flag =>
    cases flag
    · exact reads_of_scalar (by decide) (by decide) (fun rest _ => rfl) rfl
    · exact reads_of_scalar (by decide) (by decide) (fun rest _ => rfl) rfl
  | number literal =>
    obtain ⟨head, rest, begins, -⟩ := number_head numeric
    refine reads_of_scalar (by simp [Value.render, begins]) ?_
      (fun rest ends => scalar_number numeric ends) rfl
    have bounds : code '0' ≤ head ∧ head ≤ code '9' ∨ head = code '-' :=
      begins_with_digit numeric begins
    have values : code '0' = 48 ∧ code '9' = 57 ∧ code '-' = 45 ∧ quote = 34 ∧
        code '[' = 91 ∧ code '{' = 123 := by decide
    simp only [Value.render, begins, List.head?_cons, Option.mem_some_iff]
    rintro byte rfl
    omega
  | constant name =>
    cases name
    · exact reads_of_scalar (by decide) (by decide) (fun rest _ => rfl) rfl
    · exact reads_of_scalar (by decide) (by decide) (fun rest _ => rfl) rfl
    · exact reads_of_scalar (by decide) (by decide) (fun rest _ => rfl) rfl
  | text points =>
    intro fuel rest enough ends
    cases fuel with
    | zero => simp [Value.render, quoted] at enough
    | succ fuel =>
      have written : (Value.text points).render ++ rest =
          quote :: (points.flatMap escape ++ quote :: rest) := by
        simp [Value.render, quoted]
      rw [written, value, if_pos rfl, string_written, Value.decode, List.nil_append]
      cases utf8 points <;> rfl
  | list items reads =>
    intro fuel rest enough ends
    have notQuote : code '[' ≠ quote := by decide
    rw [Value.Numeric, numericItems_iff] at numeric
    cases fuel with
    | zero => simp [Value.render] at enough
    | succ fuel =>
      cases items with
      | nil => rfl
      | cons item more =>
        have text : (Value.list (item :: more)).render ++ rest =
            code '[' :: (Value.renderItems (item :: more) ++ code ']' :: rest) := by
          simp [Value.render]
        obtain ⟨head, others, begins, notSpace, notClosing, -⟩ :=
          render_head item (numeric item List.mem_cons_self)
        obtain ⟨after, whole⟩ : ∃ after,
            Value.renderItems (item :: more) ++ code ']' :: rest = head :: after := by
          rw [Value.renderItems, begins]
          exact ⟨_, rfl⟩
        have skipped : skip (head :: after) = head :: after := by simp [skip, notSpace]
        simp only [Value.render, List.length_append, List.length_cons, List.length_nil] at enough
        have remaining := items_render (List.cons_ne_nil item more) numeric
          (fun entry member => reads entry member (numeric entry member)) fuel rest (by omega)
        rw [whole] at remaining
        rw [text, whole, value, if_neg notQuote, if_pos rfl, skipped]
        simp only [notClosing, ite_false, remaining, Value.decode]
        cases Value.decodeItems (item :: more) <;> rfl
  | object members reads =>
    intro fuel rest enough ends
    have notQuote : code '{' ≠ quote := by decide
    have notList : code '{' ≠ code '[' := by decide
    rw [Value.Numeric, numericMembers_iff] at numeric
    cases fuel with
    | zero => simp [Value.render] at enough
    | succ fuel =>
      cases members with
      | nil => rfl
      | cons entry more =>
        have text : (Value.object (entry :: more)).render ++ rest =
            code '{' :: (Value.renderMembers (entry :: more) ++ code '}' :: rest) := by
          simp [Value.render]
        obtain ⟨after, whole⟩ : ∃ after,
            Value.renderMembers (entry :: more) ++ code '}' :: rest = quote :: after :=
          ⟨_, rfl⟩
        have skipped : skip (quote :: after) = quote :: after := rfl
        have notClosing : quote ≠ code '}' := by decide
        simp only [Value.render, List.length_append, List.length_cons, List.length_nil] at enough
        have remaining := members_render (List.cons_ne_nil entry more) numeric
          (fun entry member => reads entry member (numeric entry member)) fuel rest (by omega)
        rw [whole] at remaining
        rw [text, whole, value, if_neg notQuote, if_neg notList, if_pos rfl, skipped]
        simp only [notClosing, ite_false, remaining, Value.decode]
        cases Value.decodeMembers (entry :: more) <;> rfl

/-- A line with a value is read as the value with its strings decoded. -/
theorem loads_render (written : Value) (numeric : written.Numeric) (blanks : List Nat)
    (spaces : ∀ byte ∈ blanks, isSpace byte = true) :
    loads (written.render ++ blanks) = written.decode := by
  have ends : Ends blanks := by
    cases blanks with
    | nil => exact ends_nil
    | cons byte more =>
      refine ends_of_code more ?_
      have space := spaces byte List.mem_cons_self
      simp only [isSpace, Bool.or_eq_true, decide_eq_true_eq] at space
      rcases space with ((rfl | rfl) | rfl) | rfl <;> decide
  have skipped : skip blanks = [] := by
    rw [skip, List.dropWhile_eq_nil_iff]
    exact spaces
  rw [loads, skip_render written numeric, reads_of_numeric written numeric _ blanks _ ends]
  · cases written.decode with
    | none => rfl
    | some found => simp [skipped]
  · rw [List.length_append]
    omega

end Palette.Foundation.Json
