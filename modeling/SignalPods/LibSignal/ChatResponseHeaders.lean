import SignalPods.LibSignal.ChatServiceTypes
import Mathlib.Data.List.Nodup
import Mathlib.Data.List.Induction

namespace SignalPods.LibSignal

open Machine

/-- A header as servers send it: a name without a colon, a colon and a value. -/
structure HeaderField where
  name : String
  value : String
  nameHasNoColon : ':' ∉ name.toList
  noNul : 0 ∉ utf8 (name ++ ":" ++ value)

def HeaderField.raw (field : HeaderField) : CString := ⟨utf8 (field.name ++ ":" ++ field.value), field.noNul⟩

theorem utf8_append (first second : String) : utf8 (first ++ second) = utf8 first ++ utf8 second := by
  simp [utf8]

theorem colon_ne_ofNat {n : Nat} (large : 128 ≤ n) (small : n < 256) : (58 : UInt8) ≠ UInt8.ofNat n := by
  intro same
  have values := congrArg UInt8.toNat same
  rw [UInt8.toNat_ofNat_of_lt' (show n < UInt8.size from small)] at values
  have colon : (58 : UInt8).toNat = 58 := rfl
  omega

/-- Only the colon itself has its byte in its encoding. -/
theorem colon_of_mem_utf8EncodeChar {c : Char} (member : 58 ∈ String.utf8EncodeChar c) : c = ':' := by
  unfold String.utf8EncodeChar at member
  dsimp only at member
  split at member
  · rename_i ascii
    have values := congrArg UInt8.toNat (List.mem_singleton.mp member)
    rw [UInt8.toNat_ofNat_of_lt' (show c.val.toNat < UInt8.size from by unfold UInt8.size; omega)] at values
    exact Char.ext (UInt32.toNat.inj values.symm)
  split at member
  · rcases List.mem_pair.mp member with same | same
    · exact absurd same (colon_ne_ofNat (by omega) (by omega))
    · exact absurd same (colon_ne_ofNat (by omega) (by omega))
  split at member
  · rcases List.mem_cons.mp member with same | rest
    · exact absurd same (colon_ne_ofNat (by omega) (by omega))
    rcases List.mem_pair.mp rest with same | same
    · exact absurd same (colon_ne_ofNat (by omega) (by omega))
    · exact absurd same (colon_ne_ofNat (by omega) (by omega))
  · rcases List.mem_cons.mp member with same | rest
    · exact absurd same (colon_ne_ofNat (by omega) (by omega))
    rcases List.mem_cons.mp rest with same | last
    · exact absurd same (colon_ne_ofNat (by omega) (by omega))
    rcases List.mem_pair.mp last with same | same
    · exact absurd same (colon_ne_ofNat (by omega) (by omega))
    · exact absurd same (colon_ne_ofNat (by omega) (by omega))

theorem colon_mem_utf8 {s : String} (member : 58 ∈ utf8 s) : ':' ∈ s.toList := by
  obtain ⟨c, inside, encoded⟩ := List.mem_flatMap.mp member
  rw [← colon_of_mem_utf8EncodeChar encoded]
  exact inside

namespace ChatResponse

variable (strings : SwiftStrings)

/-- A header is split at its first colon, whatever its value holds. -/
theorem header_raw (field : HeaderField) : header strings (some field.raw) = some (field.name, field.value) := by
  have bytes : field.raw.bytes = utf8 field.name ++ 58 :: utf8 field.value := by
    unfold HeaderField.raw
    dsimp only
    rw [utf8_append, utf8_append, List.append_assoc]
    rfl
  have noColon : (utf8 field.name).findIdx? (· = 58) = none := by
    rw [List.findIdx?_eq_none_iff]
    intro byte member
    have different : byte ≠ 58 := by
      rintro rfl
      exact field.nameHasNoColon (colon_mem_utf8 member)
    simpa using different
  have colon : (58 :: utf8 field.value).findIdx? (· = 58) = some 0 := rfl
  have found : field.raw.bytes.findIdx? (· = 58) = some (utf8 field.name).length := by
    rw [bytes, List.findIdx?_append, noColon, colon]
    simp
  have name : field.raw.bytes.take (utf8 field.name).length = utf8 field.name := by
    rw [bytes, List.take_left]
  have value : field.raw.bytes.drop ((utf8 field.name).length + 1) = utf8 field.value := by
    rw [bytes, ← List.drop_drop, List.drop_left]
    rfl
  unfold header
  dsimp only
  rw [found]
  dsimp only
  rw [name, fromUTF8?_utf8]
  dsimp only
  rw [value, SwiftStrings.ofCString, stringDecoding_utf8]

def pair (field : HeaderField) : String × String := (field.name, field.value)

theorem hasKey_iff (fields : List HeaderField) (key : String) :
    strings.hasKey (fields.map pair) key = true ↔
      strings.canonical key ∈ fields.map fun field => strings.canonical field.name := by
  unfold SwiftStrings.hasKey
  rw [List.any_map, List.any_eq_true, List.mem_map]
  constructor
  · rintro ⟨field, member, same⟩
    exact ⟨field, member, of_decide_eq_true same⟩
  · rintro ⟨field, member, same⟩
    exact ⟨field, member, decide_eq_true same⟩

theorem insertUnique_eq_some_iff {fields : List HeaderField} {field : HeaderField} {dictionary : List (String × String)} :
    insertUnique strings (fields.map pair) (pair field) = some dictionary ↔
      strings.canonical field.name ∉ (fields.map fun field => strings.canonical field.name) ∧
        (fields ++ [field]).map pair = dictionary := by
  rw [← hasKey_iff, List.map_append]
  unfold insertUnique
  by_cases known : strings.hasKey (fields.map pair) field.name = true
  · simp [known, pair]
  · simp [known, pair]

/-- The dictionary is made of all headers, unless a name occurs twice. -/
theorem headersOf_eq_some_iff (fields : List HeaderField) (dictionary : List (String × String)) :
    headersOf strings (fields.map fun field => some field.raw) = some dictionary ↔
      (fields.map fun field => strings.canonical field.name).Nodup ∧ fields.map pair = dictionary := by
  induction fields using List.reverseRecOn generalizing dictionary with
  | nil => simp [headersOf]
  | append_singleton fields field ih =>
    have step : headersOf strings ((fields ++ [field]).map fun field => some field.raw) =
        (headersOf strings (fields.map fun field => some field.raw)).bind fun dictionary =>
          insertUnique strings dictionary (pair field) := by
      unfold headersOf
      rw [List.map_append, List.foldlM_append]
      congr 1
      funext dictionary
      rw [List.map_singleton, List.foldlM_cons, header_raw]
      exact bind_pure _
    have names : ((fields ++ [field]).map fun field => strings.canonical field.name).Nodup ↔
        strings.canonical field.name ∉ (fields.map fun field => strings.canonical field.name) ∧
          (fields.map fun field => strings.canonical field.name).Nodup := by
      rw [List.map_append, List.map_singleton, ← List.concat_eq_append]
      exact List.nodup_concat _ _
    rw [step, names, Option.bind_eq_some_iff]
    constructor
    · rintro ⟨earlier, made, inserted⟩
      obtain ⟨distinct, rfl⟩ := (ih earlier).mp made
      obtain ⟨new, whole⟩ := (insertUnique_eq_some_iff strings).mp inserted
      exact ⟨⟨new, distinct⟩, whole⟩
    · rintro ⟨⟨new, distinct⟩, whole⟩
      exact ⟨fields.map pair, (ih _).mpr ⟨distinct, rfl⟩, (insertUnique_eq_some_iff strings).mpr ⟨new, whole⟩⟩

/-- The accounts of a response's memory when the response itself is gone too. -/
def accounts (rawResponse : SignalFfiChatResponse) (entries : List (ResponsePart × Posting)) : ResponsePart → Account :=
  (rawResponse.given ++ entries ++ owns rawResponse.body .drop).foldl post fun _ => {}

/-- A response as native code sends it. -/
def rawResponse (status : UInt16) (message : CString) (fields : List HeaderField) (body : SignalOwnedBuffer) :
    SignalFfiChatResponse :=
  { status := status, message := some message, headers := fields.map fun field => some field.raw, body := body }

/-- A response that stands for the raw one, with all its memory released once. -/
structure Consumed (status : UInt16) (message : CString) (fields : List HeaderField) (body : SignalOwnedBuffer)
    (response : ChatResponse) (entries : List (ResponsePart × Posting)) : Prop where
  sameStatus : response.status = status
  sameMessage : ∀ text, message.bytes = utf8 text → response.message = text
  sameBody : response.body = body.getD []
  named : ∀ field ∈ fields, ∃ value, strings.value response.headers field.name = some value
  found : ∀ name value, strings.value response.headers name = some value →
    ∃ field ∈ fields, strings.canonical field.name = strings.canonical name ∧ field.value = value
  text : (accounts (rawResponse status message fields body) entries .message).Closed
  list : (accounts (rawResponse status message fields body) entries .headers).Closed
  bytes : if body.isSome then (accounts (rawResponse status message fields body) entries .body).Closed
    else accounts (rawResponse status message fields body) entries .body = {}

variable {strings}

theorem value_found {fields : List HeaderField} {name value : String}
    (found : strings.value (fields.map pair) name = some value) :
    ∃ field ∈ fields, strings.canonical field.name = strings.canonical name ∧ field.value = value := by
  unfold SwiftStrings.value at found
  obtain ⟨entry, first, rfl⟩ := Option.map_eq_some_iff.mp found
  obtain ⟨field, member, rfl⟩ := List.mem_map.mp (List.mem_of_find?_eq_some first)
  have sameName := List.find?_some first
  exact ⟨field, member, of_decide_eq_true sameName, rfl⟩

theorem value_named {fields : List HeaderField} {field : HeaderField} (member : field ∈ fields) :
    ∃ value, strings.value (fields.map pair) field.name = some value := by
  unfold SwiftStrings.value
  have some : ((fields.map pair).find? fun entry =>
      decide (strings.canonical entry.1 = strings.canonical field.name)).isSome := by
    rw [List.find?_isSome]
    exact ⟨pair field, List.mem_map_of_mem member, decide_eq_true rfl⟩
  obtain ⟨entry, first⟩ := Option.isSome_iff_exists.mp some
  exact ⟨entry.2, by rw [first]; rfl⟩

theorem distinct_of_consuming {status : UInt16} {message : CString} {fields : List HeaderField}
    {body : SignalOwnedBuffer} {result : ChatResponse × List (ResponsePart × Posting)}
    (parsed : consuming strings (rawResponse status message fields body) = some result) :
    (fields.map fun field => strings.canonical field.name).Nodup := by
  obtain ⟨headers, made, _⟩ := Option.map_eq_some_iff.mp parsed
  exact ((headersOf_eq_some_iff strings fields headers).mp made).1

/-- Parsing the headers of a response neither stops the process nor loses
memory exactly when no two of them have the same name. -/
theorem chatResponse_consumed_iff (strings : SwiftStrings) (status : UInt16) (message : CString)
    (fields : List HeaderField) (body : SignalOwnedBuffer) :
    (∃ response entries, consuming strings (rawResponse status message fields body) = some (response, entries) ∧
        Consumed strings status message fields body response entries) ↔
      (fields.map fun field => strings.canonical field.name).Nodup := by
  constructor
  · rintro ⟨response, entries, parsed, _⟩
    exact distinct_of_consuming parsed
  · intro distinct
    have made := (headersOf_eq_some_iff strings fields _).mpr ⟨distinct, rfl⟩
    refine ⟨_, _, Option.map_eq_some_iff.mpr ⟨_, made, rfl⟩, rfl, ?_, rfl, fun _ => value_named, ?_, ?_, ?_, ?_⟩
    · intro text same
      unfold SwiftStrings.ofCString
      dsimp only
      rw [same, stringDecoding_utf8]
    · intro name value
      exact value_found
    · cases body with
      | none => exact ⟨1, rfl⟩
      | some bytes => exact ⟨1, rfl⟩
    · cases body with
      | none => exact ⟨1, rfl⟩
      | some bytes => exact ⟨1, rfl⟩
    · cases body with
      | none => exact rfl
      | some bytes => exact ⟨0, rfl⟩

def firstCookie : HeaderField := ⟨"set-cookie", "a=1", by decide, by decide⟩

def secondCookie : HeaderField := ⟨"set-cookie", "b=2", by decide, by decide⟩

/-- Two cookies are set in one response. -/
theorem repeated_header_stops_the_process :
    ¬ ∃ response entries,
      consuming ⟨fun _ => "", id⟩ (rawResponse 200 ⟨utf8 "OK", by decide⟩ [firstCookie, secondCookie] none) =
          some (response, entries) ∧
        Consumed ⟨fun _ => "", id⟩ 200 ⟨utf8 "OK", by decide⟩ [firstCookie, secondCookie] none response entries := by
  rintro ⟨response, entries, parsed, _⟩
  have distinct := distinct_of_consuming parsed
  exact absurd distinct (by decide)

end ChatResponse

end SignalPods.LibSignal
