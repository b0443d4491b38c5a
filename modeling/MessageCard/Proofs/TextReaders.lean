import MessageCard.Card.StrictText
import MessageCard.Proofs.CompactReading
import MessageCard.Proofs.SkippedValues

/-! The two readers of localized texts.  One looks for the parts of a text in a value and passes
over what has another form; the other reads the parts where they stand in a source and refuses
such forms.  Where the source is an object that both take they find the same text, and either
finds a text again in what it is written as.
-/

namespace MessageCard.LocalizedText

open Json Json.Reader

-----------------------------------------------------------------------------------------
-- Tables
-----------------------------------------------------------------------------------------

/-- The table of a text, if there is one, is in strict order of the locales. -/
def Ordered (text : LocalizedText) : Prop :=
  ∀ table, text.variants = some table → table.Pairwise fun entry later => entry.1 < later.1

/-- A table as the fields of an object. -/
def entryFields (table : List (String × String)) : Fields :=
  table.map fun (locale, entry) => (locale, .string entry)

theorem entryFields_cons (locale entry : String) (table : List (String × String))
    : entryFields ((locale, entry) :: table) = (locale, .string entry) :: entryFields table :=
  rfl

theorem stringEntries_entryFields (table : List (String × String))
    : stringEntries (entryFields table) = table := by
  induction table with
  | nil => rfl
  | cons entry table ih => exact congrArg (entry :: ·) ih

theorem insertField_entryFields (locale entry : String) (table : List (String × String))
    : insertField locale (.string entry) (entryFields table)
      = entryFields (insertEntry locale entry table) := by
  induction table with
  | nil => rfl
  | cons first table ih =>
      rcases first with ⟨other, old⟩
      change insertField locale (.string entry) ((other, .string old) :: entryFields table) = _
      rw [insertField, insertEntry]
      split
      · rfl
      · split
        · rfl
        · rw [ih]
          rfl

/-- An entry is put behind others whose locales come before its own. -/
theorem insertEntry_last {locale entry : String} {table : List (String × String)}
    (before : ∀ other ∈ table, other.1 < locale)
    : insertEntry locale entry table = table ++ [(locale, entry)] := by
  have beforeFields : ∀ field ∈ entryFields table, field.1 < locale := by
    intro field member
    obtain ⟨other, listed, rfl⟩ := List.mem_map.mp member
    exact before other listed
  have fields : entryFields (insertEntry locale entry table)
      = entryFields (table ++ [(locale, entry)]) := by
    rw [← insertField_entryFields, insertField_last beforeFields, entryFields, entryFields,
      List.map_append]
    rfl
  rw [← stringEntries_entryFields (insertEntry locale entry table), fields,
    stringEntries_entryFields]

theorem pairwise_entryFields {table : List (String × String)}
    : (entryFields table).Pairwise (fun field later => field.1 < later.1)
      ↔ table.Pairwise fun entry later => entry.1 < later.1 :=
  List.pairwise_map

-----------------------------------------------------------------------------------------
-- One source for both readers
-----------------------------------------------------------------------------------------

variable {bound room limit : Nat} {first : Bool} {source left rest : List Char} {found : Json}

/-- Nothing is read of a value that is refused. -/
theorem refuse_ne_ok {α : Type} {expected : String} {result : α × List Char}
    : refuse expected source ≠ .ok result := by
  have never {β : Type} {words : β → String} {reading : Except Failure (β × List Char)}
      : refused words expected reading ≠ .ok result := by
    rcases reading with failure | ⟨value, rest⟩ <;> exact nofun
  rw [refuse.eq_def]
  split
  · exact nofun
  · exact never
  · exact never
  · exact never
  · exact never
  · exact nofun
  · exact nofun
  · split
    · exact never
    · exact nofun

theorem typedString_value {text : String} (strict : typedString source = .ok (text, left))
    (read : Reader.value bound room source = .ok (found, rest))
    : left = rest ∧ found = .string text := by
  cases bound with
  | zero => cases read
  | succ bound =>
      rw [typedString] at strict
      split at strict
      · rename_i start
        rw [Reader.value, start] at read
        obtain ⟨content, string, rfl⟩ := mapReading_ok_iff.mp read
        cases strict.symm.trans string
        exact ⟨rfl, rfl⟩
      · exact (refuse_ne_ok strict).elim

/-- Blanks before a value are passed over. -/
theorem value_skipBlank (bound room : Nat) (source : List Char)
    : Reader.value (bound + 1) room (skipBlank source)
      = Reader.value (bound + 1) room source := by
  rw [Reader.value, Reader.value, skipBlank_skipBlank]

/-- What may be `null` is read by both as `null`, or else as what it is. -/
theorem typedOption_value {α : Type} {inner : Typed α} {asJson : α → Json} {result : Option α}
    (agrees
      : ∀ {source left value},
          inner source = .ok (value, left)
          → Reader.value bound room source = .ok (found, rest)
          → left = rest ∧ found = asJson value)
    (strict : typedOption inner source = .ok (result, left))
    (read : Reader.value bound room source = .ok (found, rest))
    : left = rest ∧ found = (result.map asJson).getD .null := by
  cases bound with
  | zero => cases read
  | succ bound =>
      rw [typedOption] at strict
      split at strict
      · rename_i start
        rw [Reader.value, start] at read
        obtain rfl := word_result strict
        cases (word_as Json.null strict).symm.trans read
        exact ⟨rfl, rfl⟩
      · obtain ⟨value, inside, rfl⟩ := mapReading_ok_iff.mp strict
        rw [← value_skipBlank] at read
        exact agrees inside read

/-- A table of strings is read by both as the object of its entries, by induction over those that
the strict reader takes.
-/
theorem tableEntries_fields {table seen : List (String × String)} {fields : Fields}
    (strict : tableEntries limit first seen source = .ok (table, left))
    (read : Reader.fields bound room first (entryFields seen) source = .ok (fields, rest))
    : left = rest ∧ fields = entryFields table := by
  induction limit generalizing bound first seen source with
  | zero => cases strict
  | succ limit ih =>
      cases bound with
      | zero => cases read
      | succ bound =>
          rw [tableEntries] at strict
          rw [Reader.fields] at read
          cases next : nextName first source with
          | error failure =>
              rw [next] at strict
              cases strict
          | ok next' =>
              rw [next] at strict read
              cases next' with
              | finished after =>
                  cases strict
                  cases read
                  exact ⟨rfl, rfl⟩
              | member inner =>
                  obtain ⟨⟨locale, afterName⟩, named, strict⟩ := bind_ok_iff.mp strict
                  obtain ⟨afterColon, separated, strict⟩ := bind_ok_iff.mp strict
                  obtain ⟨⟨entry, afterEntry⟩, string, strict⟩ := bind_ok_iff.mp strict
                  simp only [named, separated] at read
                  split at read
                  · cases read
                  · rename_i value afterValue readValue
                    obtain ⟨rfl, rfl⟩ := typedString_value string readValue
                    rw [insertField_entryFields] at read
                    exact ih strict read

/-- A value that starts with a brace is read as an object. -/
theorem value_brace {inner : List Char} (start : skipBlank source = '\x7b' :: inner)
    (read : Reader.value (bound + 1) room source = .ok (found, rest))
    : ∃ room fields,
        Reader.fields bound room true [] inner = .ok (fields, rest) ∧ found = .object fields := by
  rw [Reader.value, start] at read
  cases room with
  | zero => cases read
  | succ room =>
      obtain ⟨fields, inside, rfl⟩ := mapReading_ok_iff.mp read
      exact ⟨room, fields, inside, rfl⟩

/-- A value that starts with a bracket is read as an array. -/
theorem value_bracket {inner : List Char} (start : skipBlank source = '[' :: inner)
    (read : Reader.value (bound + 1) room source = .ok (found, rest))
    : ∃ items, found = .array items := by
  rw [Reader.value, start] at read
  cases room with
  | zero => cases read
  | succ room =>
      obtain ⟨items, _, rfl⟩ := mapReading_ok_iff.mp read
      exact ⟨items, rfl⟩

theorem typedTable_value {table : List (String × String)}
    (strict : typedTable source = .ok (table, left))
    (read : Reader.value bound room source = .ok (found, rest))
    : left = rest ∧ found = .object (entryFields table) := by
  cases bound with
  | zero => cases read
  | succ bound =>
      rw [typedTable] at strict
      split at strict
      · rename_i start
        obtain ⟨room, fields, inside, rfl⟩ := value_brace start read
        obtain ⟨rfl, rfl⟩ := tableEntries_fields strict inside
        exact ⟨rfl, rfl⟩
      · exact (refuse_ne_ok strict).elim

section

variable (name : String) (value : Json) (fields : Fields)

theorem ofFields_insert_content
    : ofFields (insertField "content" value fields)
      = { ofFields fields with content := value.string? } := by
  simp [ofFields, objectField?, field?_insertField]

theorem ofFields_insert_variants
    : ofFields (insertField "i18n" value fields)
      = { ofFields fields with variants := value.object?.map stringEntries } := by
  simp [ofFields, objectField?, field?_insertField]

/-- A field of another name says nothing about a text. -/
theorem ofFields_insert_other (notContent : name ≠ "content") (notVariants : name ≠ "i18n")
    : ofFields (insertField name value fields) = ofFields fields := by
  simp [ofFields, objectField?, field?_insertField, Ne.symm notContent, Ne.symm notVariants]

end

/-- One field of a structure is the end of the object, a field with a reader of its own that has not
been read before, or any other field, which is skipped where the structure is open.
-/
theorem shapeFields_ok_cases {α : Type} {shape : Shape α} {names : List String} {whole result : α}
    (strict : shapeFields shape (limit + 1) first names whole source = .ok (result, left))
    : (∃ after, nextName first source = .ok (.finished after) ∧ result = whole)
      ∨ ∃ inner name afterName afterColon,
          nextName first source = .ok (.member inner)
          ∧ stringRest inner = .ok (name, afterName)
          ∧ colon afterName = .ok afterColon
          ∧ ((∃ field next after,
                shape.fields.find? (·.name == name) = some field
                ∧ field.read whole afterColon = .ok (next, after)
                ∧ shapeFields shape limit false (name :: names) next after = .ok (result, left))
            ∨ ∃ after,
                shape.fields.find? (·.name == name) = none
                ∧ typedIgnored afterColon = .ok ((), after)
                ∧ shapeFields shape limit false names whole after = .ok (result, left)) := by
  have never {message : String} {text : List Char}
      : refuseField message text ≠ .ok (result, left) := by
    rw [refuseField]
    split <;> exact nofun
  rw [shapeFields] at strict
  split at strict
  · cases strict
  · rename_i next
    cases strict
    exact .inl ⟨_, next, rfl⟩
  · rename_i inner next
    obtain ⟨⟨name, afterName⟩, named, strict⟩ := bind_ok_iff.mp strict
    dsimp only at strict
    split at strict
    · rename_i field known
      split at strict
      · exact (never strict).elim
      · obtain ⟨afterColon, separated, strict⟩ := bind_ok_iff.mp strict
        obtain ⟨⟨next', after⟩, read, strict⟩ := bind_ok_iff.mp strict
        exact .inr ⟨inner, name, afterName, afterColon, next, named, separated,
          .inl ⟨field, next', after, known, read, strict⟩⟩
    · rename_i unknown
      split at strict
      · exact (never strict).elim
      · obtain ⟨afterColon, separated, strict⟩ := bind_ok_iff.mp strict
        obtain ⟨⟨_, after⟩, skipped, strict⟩ := bind_ok_iff.mp strict
        exact .inr ⟨inner, name, afterName, afterColon, next, named, separated,
          .inr ⟨after, unknown, skipped, strict⟩⟩

/-- The fields from which a text is read are its content and its table. -/
theorem shape_find_cases (name : String)
    : (name = "content"
        ∧ shape.fields.find? (·.name == name)
          = some (.of "content" (typedOption typedString)
              (fun text content => { text with content })))
      ∨ (name = "i18n"
        ∧ shape.fields.find? (·.name == name)
          = some (.of "i18n" (typedOption typedTable)
              (fun text variants => { text with variants })))
      ∨ (name ≠ "content"
        ∧ name ≠ "i18n"
        ∧ shape.fields.find? (·.name == name) = none) := by
  by_cases content : name = "content"
  · subst content
    exact .inl ⟨rfl, rfl⟩
  by_cases variants : name = "i18n"
  · subst variants
    exact .inr (.inl ⟨rfl, rfl⟩)
  · refine .inr (.inr ⟨content, variants, ?_⟩)
    simp [shape, Reader.Field.of, Ne.symm content, Ne.symm variants]

/-- A field that has a reader of its own is put into the text that the fields before it make, and
both readers end behind it.
-/
theorem field_read_ofFields {name : String} {field : Reader.Field LocalizedText}
    {text : LocalizedText}
    {seen : Fields} (known : shape.fields.find? (·.name == name) = some field)
    (strict : field.read (ofFields seen) source = .ok (text, left))
    (read : Reader.value bound room source = .ok (found, rest))
    : left = rest ∧ text = ofFields (insertField name found seen) := by
  rcases shape_find_cases name with
    ⟨rfl, isContent⟩ | ⟨rfl, isTable⟩ | ⟨_, _, unknown⟩
  · cases known.symm.trans isContent
    obtain ⟨content, typed, rfl⟩ := mapReading_ok_iff.mp strict
    obtain ⟨rfl, rfl⟩ := typedOption_value typedString_value typed read
    rw [ofFields_insert_content]
    cases content <;> exact ⟨rfl, rfl⟩
  · cases known.symm.trans isTable
    obtain ⟨table, typed, rfl⟩ := mapReading_ok_iff.mp strict
    obtain ⟨rfl, rfl⟩ := typedOption_value typedTable_value typed read
    rw [ofFields_insert_variants]
    cases table with
    | none => exact ⟨rfl, rfl⟩
    | some table =>
        refine ⟨rfl, congrArg (LocalizedText.mk _) ?_⟩
        exact congrArg some (stringEntries_entryFields table).symm
  · cases known.symm.trans unknown

/-- The text that is read field by field is that of the fields read so far.  By induction over
the fields that the strict reader takes: what has a reader of its own is read alike, and anything
else is skipped by one reader and has no part in the text for the other.
-/
theorem shapeFields_fields {names : List String} {text : LocalizedText} {seen fields : Fields}
    (strict : shapeFields shape limit first names (ofFields seen) source = .ok (text, left))
    (read : Reader.fields bound room first seen source = .ok (fields, rest))
    : text = ofFields fields := by
  induction limit generalizing bound first names seen source with
  | zero => cases strict
  | succ limit ih =>
      cases bound with
      | zero => cases read
      | succ bound =>
          rw [Reader.fields] at read
          rcases shapeFields_ok_cases strict with
            ⟨after, next, rfl⟩
            | ⟨inner, name, afterName, afterColon, next, named, separated, fieldRead⟩
          · rw [next] at read
            cases read
            rfl
          · simp only [next, named, separated] at read
            split at read
            · cases read
            · rename_i value afterValue readValue
              rcases fieldRead with
                ⟨field, text', after, known, typed, strict⟩ | ⟨after, unknown, skipped, strict⟩
              · obtain ⟨rfl, rfl⟩ := field_read_ofFields known typed readValue
                exact ih strict read
              · obtain rfl := typedIgnored_rest readValue skipped
                rcases shape_find_cases name with
                  ⟨rfl, isContent⟩ | ⟨rfl, isTable⟩ | ⟨notContent, notTable, _⟩
                · cases unknown.symm.trans isContent
                · cases unknown.symm.trans isTable
                · rw [← ofFields_insert_other name value seen notContent notTable] at strict
                  exact ih strict read

theorem finished_ok {α : Type} {result value : α} (ended : finished result rest = .ok value)
    : result = value := by
  rw [finished] at ended
  split at ended
  · exact Except.ok.inj ended
  · cases ended

/-- Of a source that is an object and that the strict reader takes, both readers make one text. -/
theorem ofFields_eq_of_strict {fields : Fields} {text : LocalizedText}
    (read : readText source = .ok (.object fields)) (strict : ofJsonText source = .ok text)
    : ofFields fields = text := by
  obtain ⟨⟨value, afterValue⟩, readValue, ended⟩ := bind_ok_iff.mp read
  obtain ⟨⟨typed, afterTyped⟩, readTyped, typedEnded⟩ := bind_ok_iff.mp strict
  obtain rfl := finished_ok ended
  obtain rfl := finished_ok typedEnded
  rw [typedShape] at readTyped
  split at readTyped
  · rename_i start
    obtain ⟨items, same⟩ := value_bracket start readValue
    cases same
  · rename_i start
    obtain ⟨room, others, inside, same⟩ := value_brace start readValue
    cases same
    exact (shapeFields_fields readTyped inside).symm
  · exact (refuse_ne_ok readTyped).elim

-----------------------------------------------------------------------------------------
-- Texts that are written
-----------------------------------------------------------------------------------------

variable {text : LocalizedText}

/-- What a text is written as has the parts of the text. -/
theorem ofJson_toJson (text : LocalizedText) : ofJson text.toJson = text := by
  rcases text with ⟨content, table⟩
  cases table with
  | none => cases content <;> rfl
  | some table =>
      have entries := congrArg some (stringEntries_entryFields table)
      cases content with
      | none => exact congrArg (LocalizedText.mk _) entries
      | some content => exact congrArg (LocalizedText.mk _) entries

theorem typedString_compactChars (text : String) (rest : List Char)
    : typedString ((Json.string text).compactChars ++ rest) = .ok (text, rest) := by
  rw [compactChars_string]
  exact stringRest_quoted text rest

/-- The entries of a table that is in order are read back strictly, by induction over them. -/
theorem tableEntries_members {bound : Nat} {first : Bool} {table seen : List (String × String)}
    (rest : List Char) (inOrder : (seen ++ table).Pairwise fun entry later => entry.1 < later.1)
    (enough : table.length < bound)
    : tableEntries bound first seen (membersChars first (entryFields table) ++ '\x7d' :: rest)
      = .ok (seen ++ table, rest) := by
  induction table generalizing bound first seen with
  | nil =>
      obtain ⟨bound, rfl⟩ := Nat.exists_eq_succ_of_ne_zero (Nat.ne_zero_of_lt enough)
      rw [tableEntries, entryFields, List.map_nil, nextName_end, List.append_nil]
  | cons entry table ih =>
      obtain ⟨bound, rfl⟩ := Nat.exists_eq_succ_of_ne_zero (Nat.ne_zero_of_lt enough)
      rcases entry with ⟨locale, entry⟩
      have before : ∀ other ∈ seen, other.1 < locale := fun other member =>
        (List.pairwise_append.mp inOrder).2.2 other member (locale, entry) List.mem_cons_self
      rw [List.append_cons] at inOrder
      have step
          : tableEntries (bound + 1) first seen
                (membersChars first (entryFields ((locale, entry) :: table)) ++ '\x7d' :: rest)
            = tableEntries bound false (insertEntry locale entry seen)
                (membersChars false (entryFields table) ++ '\x7d' :: rest) := by
        rw [tableEntries, entryFields_cons, nextName_members]
        simp only [stringRest_quoted, colon_spelled, typedString_compactChars, bind, Except.bind]
      rw [step, insertEntry_last before, ih inOrder (Nat.lt_of_succ_lt_succ enough),
        List.append_assoc, List.singleton_append]

theorem typedTable_compactChars {table : List (String × String)}
    (inOrder : table.Pairwise fun entry later => entry.1 < later.1) (rest : List Char)
    : typedTable ((Json.object (entryFields table)).compactChars ++ rest) = .ok (table, rest) := by
  rw [compactChars_object]
  have enough
      : table.length < (membersChars true (entryFields table) ++ '\x7d' :: rest).length + 1 := by
    have := length_le_membersChars true (entryFields table)
    rw [entryFields, List.length_map, ← entryFields] at this
    rw [List.length_append]
    omega
  have nothing : (([] : List (String × String)) ++ table).Pairwise fun entry later =>
      entry.1 < later.1 := inOrder
  exact tableEntries_members rest nothing enough

/-- A field that is written is read strictly, if it has a reader of its own and was not read
before.
-/
theorem shapeFields_member {α : Type} {shape : Shape α} {bound : Nat} {first : Bool}
    {names : List String} {whole next : α} {name : String} {value : Json} {fields : Fields}
    {field : Reader.Field α} {rest : List Char}
    (known : shape.fields.find? (·.name == name) = some field) (fresh : name ∉ names)
    (read : ∀ rest, field.read whole (value.compactChars ++ rest) = .ok (next, rest))
    : shapeFields shape (bound + 1) first names whole
          (membersChars first ((name, value) :: fields) ++ rest)
      = shapeFields shape bound false (name :: names) next (membersChars false fields ++ rest) := by
  have unseen : names.contains name = false := by simpa using fresh
  rw [shapeFields, nextName_members]
  simp only [stringRest_quoted, colon_spelled, known, unseen, read, bind, Except.bind,
    Bool.false_eq_true, if_false]

/-- What does not start like `null` is read for what it is. -/
theorem typedOption_filled {α : Type} (inner : Typed α) {c : Char} {more : List Char}
    (visible : isSeparator c = false) (notNull : c ≠ 'n')
    : typedOption inner (c :: more) = mapReading some (inner (c :: more)) := by
  have start : skipBlank (c :: more) = c :: more :=
    List.dropWhile_cons_of_neg (Bool.eq_false_iff.mp visible)
  rw [typedOption, start]
  split
  · rename_i same
    exact (notNull (List.cons.inj same).1).elim
  · rfl

theorem typedOption_string (content : String) (rest : List Char)
    : typedOption typedString ((Json.string content).compactChars ++ rest)
      = .ok (some content, rest) := by
  have read := typedString_compactChars content rest
  rw [compactChars_string] at read ⊢
  rw [typedOption_filled _ rfl (by decide), read]
  rfl

theorem typedOption_table {table : List (String × String)}
    (inOrder : table.Pairwise fun entry later => entry.1 < later.1) (rest : List Char)
    : typedOption typedTable ((Json.object (entryFields table)).compactChars ++ rest)
      = .ok (some table, rest) := by
  have read := typedTable_compactChars inOrder rest
  rw [compactChars_object] at read ⊢
  rw [typedOption_filled _ rfl (by decide), read]
  rfl

theorem shapeFields_end {α : Type} {shape : Shape α} {bound : Nat} {first : Bool}
    {names : List String} {whole : α} {rest : List Char}
    : shapeFields shape (bound + 1) first names whole (membersChars first [] ++ '\x7d' :: rest)
      = .ok (whole, rest) := by
  rw [shapeFields, nextName_end]

/-- An object that is read field by field as a text is the whole of what is read. -/
theorem ofJsonText_object {fields : Fields}
    (read
      : ∀ bound,
          fields.length < bound
          → shapeFields shape bound true [] empty (membersChars true fields ++ ['\x7d'])
            = .ok (text, []))
    : ofJsonText (Json.object fields).compactChars = .ok text := by
  have within := length_le_membersChars true fields
  have inside := read ((membersChars true fields ++ ['\x7d']).length + 1) (by
    rw [List.length_append]
    omega)
  rw [← List.append_nil (Json.object fields).compactChars, compactChars_object, ofJsonText,
    readTyped]
  change shapeFields shape _ true [] empty _ >>= _ = _
  rw [inside]
  rfl

theorem shapeFields_content {bound : Nat} {first : Bool} {names : List String} {content : String}
    {fields : Fields} {rest : List Char} (fresh : "content" ∉ names)
    : shapeFields shape (bound + 1) first names text
          (membersChars first (("content", .string content) :: fields) ++ rest)
      = shapeFields shape bound false ("content" :: names) { text with content := some content }
          (membersChars false fields ++ rest) := by
  refine shapeFields_member rfl fresh fun rest => ?_
  exact mapReading_ok_iff.mpr ⟨_, typedOption_string content rest, rfl⟩

theorem shapeFields_table {bound : Nat} {first : Bool} {names : List String}
    {table : List (String × String)} {fields : Fields} {rest : List Char}
    (inOrder : table.Pairwise fun entry later => entry.1 < later.1) (fresh : "i18n" ∉ names)
    : shapeFields shape (bound + 1) first names text
          (membersChars first (("i18n", .object (entryFields table)) :: fields) ++ rest)
      = shapeFields shape bound false ("i18n" :: names) { text with variants := some table }
          (membersChars false fields ++ rest) := by
  refine shapeFields_member rfl fresh fun rest => ?_
  exact mapReading_ok_iff.mpr ⟨_, typedOption_table inOrder rest, rfl⟩

/-- A text is read back strictly from what it is written as: cases on which parts it has. -/
theorem ofJsonText_compactChars (inOrder : text.Ordered)
    : ofJsonText text.toJson.compactChars = .ok text := by
  have steps {least bound : Nat} (enough : least < bound) : ∃ more, bound = more + least + 1 :=
    ⟨bound - least - 1, by omega⟩
  rcases text with ⟨content, table⟩
  refine ofJsonText_object fun bound enough => ?_
  obtain ⟨bound, rfl⟩ := steps enough
  cases content with
  | none =>
      cases table with
      | none => exact shapeFields_end
      | some table =>
          exact (shapeFields_table (inOrder table rfl) List.not_mem_nil).trans shapeFields_end
  | some content =>
      cases table with
      | none => exact (shapeFields_content List.not_mem_nil).trans shapeFields_end
      | some table =>
          have fresh : "i18n" ∉ ["content"] := by decide
          exact (shapeFields_content List.not_mem_nil).trans
            ((shapeFields_table (inOrder table rfl) fresh).trans shapeFields_end)

/-- What a text is written as is read back as a value: cases on which parts the text has. -/
theorem readText_compactChars (inOrder : text.Ordered)
    : readText text.toJson.compactChars = .ok text.toJson := by
  refine ReadsBack.readText (ReadsBack.of_object ?names ?each)
  case names =>
    have apart : "content" < "i18n" := by decide
    rcases text with ⟨content | content, table | table⟩
    case none.none => exact .nil
    case none.some | some.none => exact List.pairwise_singleton _ _
    case some.some => exact List.pairwise_pair.mpr apart
  case each =>
    intro field member
    rcases List.mem_append.mp member with member | member
    · obtain ⟨content, -, rfl⟩ := Option.map_eq_some_iff.mp (Option.mem_toList.mp member)
      exact ReadsBack.of_string _ content
    · obtain ⟨table, present, rfl⟩ := Option.map_eq_some_iff.mp (Option.mem_toList.mp member)
      refine ReadsBack.of_object (pairwise_entryFields.mpr (inOrder table present)) ?_
      intro entryField listed
      obtain ⟨entry, -, rfl⟩ := List.mem_map.mp listed
      exact ReadsBack.of_string _ entry.2

-----------------------------------------------------------------------------------------
-- Agreement
-----------------------------------------------------------------------------------------

/-- The table of a text that is found in an ordered object keeps the order of its fields. -/
theorem ofFields_ordered {fields : Fields} (ordered : (Json.object fields).Ordered)
    : (ofFields fields).Ordered := by
  intro table present
  obtain ⟨entries, found, rfl⟩ := Option.map_eq_some_iff.mp present
  obtain ⟨value, listed, object⟩ := Option.bind_eq_some_iff.mp found
  cases value with
  | object entries' =>
      cases object
      have names := (ordered.field listed).names
      rw [stringEntries, List.pairwise_filterMap]
      refine names.imp fun {field later} before entry kept entry' kept' => ?_
      obtain ⟨_, _, rfl⟩ := Option.map_eq_some_iff.mp kept
      obtain ⟨_, _, rfl⟩ := Option.map_eq_some_iff.mp kept'
      exact before
  | _ => cases object

/-- The two readers agree with the writer and with each other.  A text is found again by both in
what it is written as.  The texts that are read have their tables in order, and both readers find
the same text in every object that the strict one takes.
-/
theorem readers_agree
    : (∀ text : LocalizedText,
        ofJson text.toJson = text
        ∧ (text.Ordered
          → readText text.toJson.compact.toList = .ok text.toJson
            ∧ ofJsonText text.toJson.compact.toList = .ok text))
      ∧ ∀ source fields,
          readText source = .ok (.object fields)
          → (ofJson (.object fields)).Ordered
            ∧ ∀ text, ofJsonText source = .ok text → ofJson (.object fields) = text := by
  constructor
  case left =>
    intro text
    rw [compact_toList]
    exact ⟨ofJson_toJson text,
      fun inOrder => ⟨readText_compactChars inOrder, ofJsonText_compactChars inOrder⟩⟩
  case right =>
    intro source fields read
    exact ⟨ofFields_ordered (readText_ordered read), fun text => ofFields_eq_of_strict read⟩

/-- An empty table is told from a missing one by the writer and by both readers. -/
theorem emptyTable_readers_agree
    : let text : LocalizedText := { content := none, variants := some [] }
      text ≠ empty
      ∧ text.Ordered
      ∧ ofJsonText text.toJson.compact.toList = .ok text
      ∧ ofJson text.toJson = text := by
  intro text
  have inOrder : text.Ordered := by
    intro table present
    cases present
    exact .nil
  obtain ⟨_, written⟩ := readers_agree.1 text
  obtain ⟨read, strict⟩ := written inOrder
  obtain ⟨_, agrees⟩ := readers_agree.2 _ _ read
  exact ⟨by decide, inOrder, strict, agrees text strict⟩

end MessageCard.LocalizedText
