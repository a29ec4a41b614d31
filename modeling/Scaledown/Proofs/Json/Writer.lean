/-
This file shows that a written JSON value is read back.
-/

import Scaledown.Json.Writer
import Scaledown.Proofs.Json.Number

namespace Scaledown.Json

section Strings

/-- A control character is the value of its two digits. -/
theorem hexValue?_control : ∀ code < 0x20,
    Text.hexValue? ['0', '0', Nat.digitChar (code / 16), Nat.digitChar (code % 16)] = some code := by
  decide

theorem units?_escape (c : Char) (rest : List Char) :
    units? (escape c ++ rest) =
      (units? rest).map fun (units, rest) => (c.toNat :: units, rest) := by
  rw [escape]
  split_ifs with quote backslash backspace formFeed newLine carriage tab control
  any_goals
    subst c
    exact units?_short rfl rest
  · simp only [List.cons_append, List.nil_append, units?, hexValue?_control _ control]
    exact bind_units c.toNat (units? rest)
  · exact units?_plain quote backslash (Nat.le_of_not_lt control) rest

/-- The escapes of a text are read up to the closing quote. -/
theorem units?_flatMap_escape (text rest : List Char) :
    units? (text.flatMap escape ++ '"' :: rest) = some (text.map Char.toNat, rest) := by
  induction text with
  | nil => rfl
  | cons c text ih =>
    rw [List.flatMap_cons, List.append_assoc, units?_escape, ih]
    rfl

/-- A character is one unit of its own. -/
theorem ofUnits?_toNat_cons (c : Char) (units : List Nat) :
    ofUnits? (c.toNat :: units) = (ofUnits? units).map (c :: ·) := by
  have whole : c.toNat < 0xD800 ∨ 0xDFFF < c.toNat := c.valid.imp id And.left
  cases units with
  | nil => simp [ofUnits?, show ¬ (0xD800 ≤ c.toNat ∧ c.toNat < 0xE000) by omega]
  | cons unit units =>
    rw [ofUnits?, if_neg (by omega), if_neg (by omega), Char.ofNat_toNat]

theorem ofUnits?_map_toNat (text : List Char) : ofUnits? (text.map Char.toNat) = some text := by
  induction text with
  | nil => rfl
  | cons c text ih =>
    rw [List.map_cons, ofUnits?_toNat_cons, ih]
    rfl

/-- A string ends with its closing quote, whatever comes after. -/
theorem token?_quoted (value : JsonText) (rest : List Char) :
    token? (quoted value ++ rest) = some (.string value, rest) := by
  cases value with
  | none =>
    have code : Text.hexValue? ['d', '8', '0', '0'] = some 0xD800 := by decide
    simp [quoted, token?, units?, code, ofUnits?]
  | some text =>
    have read := units?_flatMap_escape text.toList rest
    simp [quoted, token?, read, ofUnits?_map_toNat]

end Strings

section Tokens

theorem token?_of_isSpace {c : Char} (space : isSpace c = true) (text : List Char) :
    token? (c :: text) = none := by
  simp only [isSpace, Bool.or_eq_true, beq_iff_eq] at space
  rcases space with ((rfl | rfl) | rfl) | rfl <;> rfl

/-- A token at the very start of a text is its first one. -/
theorem CutInto.cons {text rest : List Char} {token : Token} {row : List Token}
    (first : token? text = some (token, rest)) (later : CutInto rest row) :
    CutInto text (token :: row) := by
  refine .token ?_ later
  cases text with
  | nil => exact first
  | cons c text =>
    cases space : isSpace c with
    | true =>
      rw [token?_of_isSpace space] at first
      cases first
    | false => rwa [List.dropWhile_cons_of_neg (by simp [space])]

/-- Every number in a row of tokens is spelled as the grammar asks. -/
def Spelled (row : List Token) : Prop :=
  ∀ spelling, .number spelling ∈ row → IsNumber spelling.toList

variable {row former latter : List Token}

theorem Spelled.left (spelled : Spelled (former ++ latter)) : Spelled former :=
  fun spelling inside => spelled spelling (List.mem_append_left latter inside)

theorem Spelled.right (spelled : Spelled (former ++ latter)) : Spelled latter :=
  fun spelling inside => spelled spelling (List.mem_append_right former inside)

theorem Spelled.tail {token : Token} (spelled : Spelled (token :: row)) : Spelled row :=
  fun spelling inside => spelled spelling (.tail token inside)

theorem apart_laterItems (items : List Json) :
    Apart ((laterItems items).flatMap Token.spelling) := by
  cases items <;> rintro _ ⟨⟩ <;> rfl

theorem apart_laterMembers (members : List (JsonText × Json)) :
    Apart ((laterMembers members).flatMap Token.spelling) := by
  cases members <;> rintro _ ⟨⟩ <;> rfl

theorem CutInto.member {text rest : List Char} (value : CutInto text former) (key : JsonText)
    (later : CutInto rest latter) (apart : Apart rest) :
    CutInto (quoted key ++ ':' :: (text ++ rest)) (.string key :: .colon :: (former ++ latter)) :=
  .cons (token?_quoted key _) (.cons rfl (value.append later apart))

mutual

/-- The tokens of a value are cut where they were joined. -/
theorem cutInto_tokens (json : Json) (spelled : Spelled json.tokens) :
    CutInto (json.tokens.flatMap Token.spelling) json.tokens := by
  match json with
  | .null => exact .cons rfl (.blank rfl)
  | .boolean true => exact .cons rfl (.blank rfl)
  | .boolean false => exact .cons rfl (.blank rfl)
  | .number spelling =>
    have first := (spelled spelling (by simp [tokens])).token?_eq
    rw [String.ofList_toList] at first
    simp only [tokens, List.flatMap_singleton, Token.spelling]
    exact .cons first (.blank rfl)
  | .string value =>
    simp only [tokens, List.flatMap_cons, List.flatMap_nil]
    exact .cons (token?_quoted value []) (.blank rfl)
  | .array [] => exact .cons rfl (.cons rfl (.blank rfl))
  | .array (item :: items) =>
    rw [tokens] at spelled ⊢
    rw [List.flatMap_cons, List.flatMap_append]
    have here := cutInto_tokens item spelled.tail.left
    have later := cutInto_laterItems items spelled.tail.right
    exact .cons rfl (here.append later (apart_laterItems items))
  | .object [] => exact .cons rfl (.cons rfl (.blank rfl))
  | .object ((key, value) :: members) =>
    rw [tokens] at spelled ⊢
    rw [List.flatMap_cons, List.flatMap_cons, List.flatMap_cons, List.flatMap_append]
    have here := cutInto_tokens value spelled.tail.tail.tail.left
    have later := cutInto_laterMembers members spelled.tail.tail.tail.right
    exact .cons rfl (here.member key later (apart_laterMembers members))

theorem cutInto_laterItems (items : List Json) (spelled : Spelled (laterItems items)) :
    CutInto ((laterItems items).flatMap Token.spelling) (laterItems items) := by
  match items with
  | [] => exact .cons rfl (.blank rfl)
  | item :: items =>
    rw [laterItems] at spelled ⊢
    rw [List.flatMap_cons, List.flatMap_append]
    have here := cutInto_tokens item spelled.tail.left
    have later := cutInto_laterItems items spelled.tail.right
    exact .cons rfl (here.append later (apart_laterItems items))

theorem cutInto_laterMembers (members : List (JsonText × Json))
    (spelled : Spelled (laterMembers members)) :
    CutInto ((laterMembers members).flatMap Token.spelling) (laterMembers members) := by
  match members with
  | [] => exact .cons rfl (.blank rfl)
  | (key, value) :: members =>
    rw [laterMembers] at spelled ⊢
    rw [List.flatMap_cons, List.flatMap_cons, List.flatMap_cons, List.flatMap_append]
    have here := cutInto_tokens value spelled.tail.tail.tail.left
    have later := cutInto_laterMembers members spelled.tail.tail.tail.right
    exact .cons rfl (here.member key later (apart_laterMembers members))

end

theorem Spelled.spelling_ne_nil (spelled : Spelled row) {token : Token} (inside : token ∈ row) :
    token.spelling ≠ [] := by
  cases token with
  | number spelling =>
    intro empty
    have first := (spelled spelling inside).token?_eq
    rw [show spelling.toList = [] from empty] at first
    cases first
  | boolean value => cases value <;> exact List.cons_ne_nil _ _
  | string value => cases value <;> exact List.cons_ne_nil _ _
  | _ => exact List.cons_ne_nil _ _

theorem length_le_flatMap {row : List Token} (solid : ∀ token ∈ row, token.spelling ≠ []) :
    row.length ≤ (row.flatMap Token.spelling).length := by
  induction row with
  | nil => exact le_rfl
  | cons token row ih =>
    obtain ⟨first, later⟩ := List.forall_mem_cons.1 solid
    have present := List.length_pos_iff.2 first
    have rest := ih later
    simp only [List.flatMap_cons, List.length_append, List.length_cons]
    omega

theorem Spelled.cons {token : Token} (word : ∀ spelling, .number spelling ≠ token)
    (spelled : Spelled row) : Spelled (token :: row) := by
  rintro spelling inside
  rcases List.mem_cons.1 inside with same | inside
  · exact absurd same (word spelling)
  · exact spelled spelling inside

theorem Spelled.append (left : Spelled former) (right : Spelled latter) :
    Spelled (former ++ latter) := by
  intro spelling inside
  rcases List.mem_append.1 inside with inside | inside
  · exact left spelling inside
  · exact right spelling inside

theorem spelled_laterItems {items : List Json} (each : ∀ item ∈ items, Spelled item.tokens) :
    Spelled (laterItems items) := by
  induction items with
  | nil => exact .cons nofun nofun
  | cons item items ih =>
    obtain ⟨first, others⟩ := List.forall_mem_cons.1 each
    exact .cons nofun (first.append (ih others))

theorem spelled_laterMembers {members : List (JsonText × Json)}
    (each : ∀ member ∈ members, Spelled member.2.tokens) : Spelled (laterMembers members) := by
  induction members with
  | nil => exact .cons nofun nofun
  | cons member members ih =>
    obtain ⟨first, others⟩ := List.forall_mem_cons.1 each
    exact .cons nofun (.cons nofun (.cons nofun (first.append (ih others))))

theorem spelled_array {items : List Json} (each : ∀ item ∈ items, Spelled item.tokens) :
    Spelled (array items).tokens := by
  cases items with
  | nil => exact .cons nofun (.cons nofun nofun)
  | cons item items =>
    obtain ⟨first, others⟩ := List.forall_mem_cons.1 each
    exact .cons nofun (first.append (spelled_laterItems others))

theorem spelled_object {members : List (JsonText × Json)}
    (each : ∀ member ∈ members, Spelled member.2.tokens) : Spelled (object members).tokens := by
  cases members with
  | nil => exact .cons nofun (.cons nofun nofun)
  | cons member members =>
    obtain ⟨first, others⟩ := List.forall_mem_cons.1 each
    exact .cons nofun (.cons nofun (.cons nofun (first.append (spelled_laterMembers others))))

theorem spelled_ofString (text : String) : Spelled (ofString text).tokens :=
  .cons nofun nofun

theorem spelled_ofOption {α : Type} {write : α → Json} (each : ∀ value, Spelled (write value).tokens)
    (held : Option α) : Spelled (ofOption write held).tokens := by
  cases held with
  | none => exact .cons nofun nofun
  | some value => exact each value

theorem tokens?_text {json : Json} (spelled : Spelled json.tokens) :
    tokens? json.text.toList = some json.tokens := by
  rw [text, String.toList_ofList, tokens?_eq_some_iff]
  exact ⟨cutInto_tokens json spelled, length_le_flatMap fun _ => spelled.spelling_ne_nil⟩

end Tokens

section Values

theorem exists_tokens_eq_cons (json : Json) :
    ∃ first rest, json.tokens = first :: rest ∧ first ≠ .closeBracket := by
  cases json with
  | array items => cases items <;> simp [tokens]
  | object members => cases members <;> simp [tokens]
  | _ => simp [tokens]

/-- No value starts with a closing bracket, so the first item is read like any other. -/
theorem foldlM_tokens_firstItem (json : Json) (stack : List Frame) :
    json.tokens.foldlM step (.firstItem stack) =
      json.tokens.foldlM step (.value (.items [] :: stack)) := by
  obtain ⟨first, rest, same, opens⟩ := exists_tokens_eq_cons json
  rw [same, List.foldlM_cons, List.foldlM_cons]
  cases first with
  | closeBracket => exact absurd rfl opens
  | _ => rfl

mutual

/-- The tokens of a value complete it, whatever containers are open around it. -/
theorem foldlM_tokens (json : Json) (stack : List Frame) :
    json.tokens.foldlM step (.value stack) = some (.complete stack json) := by
  match json with
  | .null => rfl
  | .boolean _ => rfl
  | .number _ => rfl
  | .string _ => rfl
  | .array [] => rfl
  | .array (item :: items) =>
    have here := foldlM_tokens item (.items [] :: stack)
    have later := foldlM_laterItems items stack [] item
    simpa [tokens, step, startValue, List.foldlM_append, foldlM_tokens_firstItem, here] using later
  | .object [] => rfl
  | .object ((key, value) :: members) =>
    have here := foldlM_tokens value (.members [] key :: stack)
    have later := foldlM_laterMembers members stack [] key value
    simpa [tokens, step, startValue, List.foldlM_append, here] using later

theorem foldlM_laterItems (items : List Json) (stack : List Frame) (before : List Json)
    (value : Json) :
    (laterItems items).foldlM step (.complete (.items before :: stack) value) =
      some (.complete stack (.array (before.reverse ++ value :: items))) := by
  match items with
  | [] => simp [laterItems, step, continueAfter]
  | item :: items =>
    have here := foldlM_tokens item (.items (value :: before) :: stack)
    have later := foldlM_laterItems items stack (value :: before) item
    simp [laterItems, step, continueAfter, List.foldlM_append, here, later]

theorem foldlM_laterMembers (members : List (JsonText × Json)) (stack : List Frame)
    (before : List (JsonText × Json)) (key : JsonText) (value : Json) :
    (laterMembers members).foldlM step (.complete (.members before key :: stack) value) =
      some (.complete stack (.object (before.reverse ++ (key, value) :: members))) := by
  match members with
  | [] => simp [laterMembers, step, continueAfter]
  | (next, item) :: members =>
    have here := foldlM_tokens item (.members ((key, value) :: before) next :: stack)
    have later := foldlM_laterMembers members stack ((key, value) :: before) next item
    simp [laterMembers, step, continueAfter, List.foldlM_append, here, later]

end

theorem ofTokens?_tokens (json : Json) : ofTokens? json.tokens = some json := by
  rw [ofTokens?, foldlM_tokens]
  rfl

/-- A text that holds the tokens of a value is read as that value. -/
theorem ofText?_of_tokens? {text : String} {json : Json}
    (cut : tokens? text.toList = some json.tokens) : ofText? text = some json := by
  rw [ofText?, cut]
  exact ofTokens?_tokens json

/-- A value is read back from its text. -/
theorem ofText?_text {json : Json} (spelled : Spelled json.tokens) :
    ofText? json.text = some json :=
  ofText?_of_tokens? (tokens?_text spelled)

example : (object [(some "a\n", array [null, ofString "\x1f\""])]).text =
    "\x7b\"a\\n\":[null,\"\\u001f\\\"\"]\x7d" := by
  decide

end Values

end Scaledown.Json
