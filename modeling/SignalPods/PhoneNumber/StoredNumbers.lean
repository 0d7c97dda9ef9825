import SignalPods.PhoneNumber.ParsedNumbers

namespace SignalPods.PhoneNumber

open Foundation

/-- The hashes of numbers and of strings; that of nil is zero. -/
structure ObjectHashes where
  ofNumber : Int → UInt64
  ofString : NSString → UInt64

def ObjectHashes.number (hashes : ObjectHashes) (n : Option Int) : UInt64 := (n.map hashes.ofNumber).getD 0

def ObjectHashes.string (hashes : ObjectHashes) (s : Option NSString) : UInt64 := (s.map hashes.ofString).getD 0

/-- What is coded under a key. -/
inductive CodedObject
  | number (n : Int)
  | string (s : NSString)
  | boolean (b : Bool)
  | source (countryCodeSource : NBECountryCodeSource)
  deriving DecidableEq, Repr

namespace CodedObject

def number? : CodedObject → Option Int
  | .number n => some n
  | _ => none

def string? : CodedObject → Option NSString
  | .string s => some s
  | _ => none

def source? : CodedObject → Option NBECountryCodeSource
  | .source countryCodeSource => some countryCodeSource
  | _ => none

/-- `boolValue`, which is `NO` for nil. -/
def boolValue : Option CodedObject → Bool
  | some (.boolean b) => b
  | _ => false

end CodedObject

/-- A keyed coder, which returns the objects that were stored. -/
structure NSCoder where
  Archive : Type
  empty : Archive
  encodeObject : Archive → Option CodedObject → NSString → Archive
  decodeObject : Archive → NSString → Option CodedObject
  decode_same : ∀ archive object key, decodeObject (encodeObject archive object key) key = object
  decode_other : ∀ archive object key other, other ≠ key →
    decodeObject (encodeObject archive object key) other = decodeObject archive other

/-- A coder that keeps a dictionary. -/
def NSCoder.dictionary : NSCoder where
  Archive := NSString → Option CodedObject
  empty _ := none
  encodeObject archive object key other := if other = key then object else archive other
  decodeObject archive key := archive key
  decode_same _ _ _ := if_pos rfl
  decode_other _ _ _ _ different := if_neg different

namespace NBPhoneNumber

def hash (hashes : ObjectHashes) (phoneNumber : NBPhoneNumber) : UInt64 :=
  let hash := hashes.number phoneNumber.countryCode
  let hash := hash ^^^ (hashes.number phoneNumber.nationalNumber + 0x9e3779b9 + (hash <<< (6 : UInt64)) + (hash >>> (2 : UInt64)))
  let hash := hash ^^^ (hashes.number phoneNumber.numberOfLeadingZeros + 0x9e3779b9 + (hash <<< (6 : UInt64)) + (hash >>> (2 : UInt64)))
  hash ^^^ (hashes.string phoneNumber.extension + 0x9e3779b9 + (hash <<< (6 : UInt64)) + (hash >>> (2 : UInt64)))

def copyWithZone (phoneNumber : NBPhoneNumber) : NBPhoneNumber :=
  let phoneNumberCopy : NBPhoneNumber := {}
  { phoneNumberCopy with
    countryCode := phoneNumber.countryCode
    nationalNumber := phoneNumber.nationalNumber
    extension := phoneNumber.extension
    italianLeadingZero := phoneNumber.italianLeadingZero
    numberOfLeadingZeros := phoneNumber.numberOfLeadingZeros
    rawInput := phoneNumber.rawInput
    countryCodeSource := phoneNumber.countryCodeSource
    preferredDomesticCarrierCode := phoneNumber.preferredDomesticCarrierCode }

variable (coder : NSCoder)

def encodeWithCoder (phoneNumber : NBPhoneNumber) (archive : coder.Archive) : coder.Archive :=
  let archive := coder.encodeObject archive (phoneNumber.countryCode.map .number) (ns "countryCode")
  let archive := coder.encodeObject archive (phoneNumber.nationalNumber.map .number) (ns "nationalNumber")
  let archive := coder.encodeObject archive (phoneNumber.extension.map .string) (ns "extension")
  let archive := coder.encodeObject archive (some (.boolean phoneNumber.italianLeadingZero)) (ns "italianLeadingZero")
  let archive := coder.encodeObject archive (phoneNumber.numberOfLeadingZeros.map .number) (ns "numberOfLeadingZeros")
  let archive := coder.encodeObject archive (phoneNumber.rawInput.map .string) (ns "rawInput")
  let archive := coder.encodeObject archive (phoneNumber.countryCodeSource.map .source) (ns "countryCodeSource")
  coder.encodeObject archive (phoneNumber.preferredDomesticCarrierCode.map .string) (ns "preferredDomesticCarrierCode")

def initWithCoder (archive : coder.Archive) : NBPhoneNumber where
  countryCode := (coder.decodeObject archive (ns "countryCode")).bind CodedObject.number?
  nationalNumber := (coder.decodeObject archive (ns "nationalNumber")).bind CodedObject.number?
  extension := (coder.decodeObject archive (ns "extension")).bind CodedObject.string?
  italianLeadingZero := CodedObject.boolValue (coder.decodeObject archive (ns "italianLeadingZero"))
  numberOfLeadingZeros := (coder.decodeObject archive (ns "numberOfLeadingZeros")).bind CodedObject.number?
  rawInput := (coder.decodeObject archive (ns "rawInput")).bind CodedObject.string?
  countryCodeSource := (coder.decodeObject archive (ns "countryCodeSource")).bind CodedObject.source?
  preferredDomesticCarrierCode :=
    (coder.decodeObject archive (ns "preferredDomesticCarrierCode")).bind CodedObject.string?

end NBPhoneNumber

/-- A number as the parser stores it: its digits, and what is set beside them. -/
structure StoredNumber where
  digits : NSString
  areDigits : digits.all isAsciiDigit
  long : MIN_LENGTH_FOR_NSN ≤ digits.length
  short : digits.length ≤ MAX_LENGTH_FOR_NSN
  countryCode : Int
  extension : Option NSString
  rawInput : Option NSString
  countryCodeSource : Option NBECountryCodeSource
  preferredDomesticCarrierCode : Option NSString

namespace StoredNumber

/-- The digits are stored in a fresh number, the leading zeros first. -/
def phoneNumber (u : NBPhoneNumberUtil) (stored : StoredNumber) : NBPhoneNumber :=
  { u.setItalianLeadingZerosForPhoneNumber stored.digits
      { countryCode := some stored.countryCode
        extension := stored.extension
        rawInput := stored.rawInput
        countryCodeSource := stored.countryCodeSource
        preferredDomesticCarrierCode := stored.preferredDomesticCarrierCode } with
    nationalNumber := some (longLongValue stored.digits) }

variable {u : NBPhoneNumberUtil}

/-- It is the number of its digits, with the fields that are not compared. -/
theorem phoneNumber_eq (stored : StoredNumber) :
    stored.phoneNumber u = { u.numberOf (some stored.countryCode) stored.digits stored.extension with
      rawInput := stored.rawInput
      countryCodeSource := stored.countryCodeSource
      preferredDomesticCarrierCode := stored.preferredDomesticCarrierCode } := by
  unfold phoneNumber NBPhoneNumberUtil.numberOf NBPhoneNumberUtil.setItalianLeadingZerosForPhoneNumber
  split <;> rfl

theorem getNationalSignificantNumber_phoneNumber (stored : StoredNumber) :
    getNationalSignificantNumber (stored.phoneNumber u) = stored.digits := by
  rw [phoneNumber_eq]
  exact NBPhoneNumberUtil.getNationalSignificantNumber_numberOf stored.areDigits stored.long stored.short
    (some stored.countryCode) stored.extension

theorem phoneNumber_fields (stored : StoredNumber) :
    (stored.phoneNumber u).countryCode = some stored.countryCode ∧
      (stored.phoneNumber u).nationalNumber = some (longLongValue stored.digits) ∧
      (stored.phoneNumber u).extension = stored.extension ∧
      ∃ zeros, (stored.phoneNumber u).numberOfLeadingZeros = some zeros := by
  unfold phoneNumber NBPhoneNumberUtil.setItalianLeadingZerosForPhoneNumber
  split
  · refine ⟨rfl, rfl, rfl, ?_⟩
    dsimp only
    split
    · exact ⟨_, rfl⟩
    · exact ⟨1, rfl⟩
  · exact ⟨rfl, rfl, rfl, 1, rfl⟩

end StoredNumber

theorem isEqualToNumber_some_iff {a : Int} {other : Option Int} : isEqualToNumber (some a) other ↔ other = some a := by
  cases other with
  | none => simp [isEqualToNumber]
  | some b =>
    rw [isEqualToNumber, beq_iff_eq, Option.some.injEq]
    exact eq_comm

namespace NBPhoneNumber

/-- Numbers that are equal agree in the fields that are compared. -/
theorem isEqual_iff {a b : NBPhoneNumber} {code national zeros : Int} (coded : a.countryCode = some code)
    (numbered : a.nationalNumber = some national) (counted : a.numberOfLeadingZeros = some zeros) :
    a.isEqual b ↔ b.countryCode = some code ∧ b.nationalNumber = some national ∧
      b.italianLeadingZero = a.italianLeadingZero ∧ b.numberOfLeadingZeros = some zeros ∧ b.extension = a.extension := by
  unfold isEqual
  rw [coded, numbered, counted, Bool.and_eq_true, Bool.and_eq_true, Bool.and_eq_true, Bool.and_eq_true,
    isEqualToNumber_some_iff, isEqualToNumber_some_iff, isEqualToNumber_some_iff, beq_iff_eq, beq_iff_eq, and_assoc,
    and_assoc, and_assoc, eq_comm (a := a.italianLeadingZero), eq_comm (a := a.extension)]

theorem copyWithZone_eq (phoneNumber : NBPhoneNumber) : phoneNumber.copyWithZone = phoneNumber := rfl

/-- The fields of a number under their keys. -/
def codedFields (phoneNumber : NBPhoneNumber) : List (NSString × Option CodedObject) :=
  [(ns "countryCode", phoneNumber.countryCode.map .number), (ns "nationalNumber", phoneNumber.nationalNumber.map .number),
    (ns "extension", phoneNumber.extension.map .string),
    (ns "italianLeadingZero", some (.boolean phoneNumber.italianLeadingZero)),
    (ns "numberOfLeadingZeros", phoneNumber.numberOfLeadingZeros.map .number),
    (ns "rawInput", phoneNumber.rawInput.map .string), (ns "countryCodeSource", phoneNumber.countryCodeSource.map .source),
    (ns "preferredDomesticCarrierCode", phoneNumber.preferredDomesticCarrierCode.map .string)]

theorem keys_nodup (phoneNumber : NBPhoneNumber) : (phoneNumber.codedFields.map Prod.fst).Nodup := by
  have keys : ([ns "countryCode", ns "nationalNumber", ns "extension", ns "italianLeadingZero",
      ns "numberOfLeadingZeros", ns "rawInput", ns "countryCodeSource", ns "preferredDomesticCarrierCode"]).Nodup := by
    decide +kernel
  exact keys

/-- Each object is found under its own key when the keys are different. -/
theorem decodeObject_of_mem (coder : NSCoder) {fields : List (NSString × Option CodedObject)}
    (different : (fields.map Prod.fst).Nodup) (archive : coder.Archive) {key : NSString} {object : Option CodedObject}
    (member : (key, object) ∈ fields) :
    coder.decodeObject (fields.foldl (fun archive field => coder.encodeObject archive field.2 field.1) archive) key =
      object := by
  have untouched (fields : List (NSString × Option CodedObject)) (absent : key ∉ fields.map Prod.fst)
      (archive : coder.Archive) :
      coder.decodeObject (fields.foldl (fun archive field => coder.encodeObject archive field.2 field.1) archive) key =
        coder.decodeObject archive key := by
    induction fields generalizing archive with
    | nil => rfl
    | cons field fields ih =>
      rw [List.map_cons, List.mem_cons, not_or] at absent
      rw [List.foldl_cons, ih absent.2, coder.decode_other archive field.2 field.1 key absent.1]
  induction fields generalizing archive with
  | nil => cases member
  | cons field fields ih =>
    rw [List.map_cons, List.nodup_cons] at different
    rw [List.foldl_cons]
    rcases List.mem_cons.mp member with rfl | later
    · rw [untouched fields different.1]
      exact coder.decode_same archive object key
    · exact ih different.2 _ later

/-- What is encoded is decoded again. -/
theorem initWithCoder_encodeWithCoder (coder : NSCoder) (phoneNumber : NBPhoneNumber) :
    initWithCoder coder (phoneNumber.encodeWithCoder coder coder.empty) = phoneNumber := by
  have found {key : NSString} {object : Option CodedObject} (member : (key, object) ∈ phoneNumber.codedFields) :
      coder.decodeObject (phoneNumber.encodeWithCoder coder coder.empty) key = object :=
    decodeObject_of_mem coder phoneNumber.keys_nodup coder.empty member
  have number (n : Option Int) : (n.map CodedObject.number).bind CodedObject.number? = n := by cases n <;> rfl
  have string (s : Option NSString) : (s.map CodedObject.string).bind CodedObject.string? = s := by cases s <;> rfl
  have source (s : Option NBECountryCodeSource) : (s.map CodedObject.source).bind CodedObject.source? = s := by
    cases s <;> rfl
  have countryCode := found (List.mem_cons_self ..)
  have nationalNumber := found (.tail _ (.head _))
  have extension := found (.tail _ (.tail _ (.head _)))
  have italianLeadingZero := found (.tail _ (.tail _ (.tail _ (.head _))))
  have numberOfLeadingZeros := found (.tail _ (.tail _ (.tail _ (.tail _ (.head _)))))
  have rawInput := found (.tail _ (.tail _ (.tail _ (.tail _ (.tail _ (.head _))))))
  have countryCodeSource := found (.tail _ (.tail _ (.tail _ (.tail _ (.tail _ (.tail _ (.head _)))))))
  have carrierCode := found (.tail _ (.tail _ (.tail _ (.tail _ (.tail _ (.tail _ (.tail _ (.head _))))))))
  unfold initWithCoder
  rw [countryCode, nationalNumber, extension, italianLeadingZero, numberOfLeadingZeros, rawInput, countryCodeSource,
    carrierCode, number, number, number, string, string, string, source]
  rfl

end NBPhoneNumber

namespace StoredNumber

variable {u : NBPhoneNumberUtil}

/-- Stored numbers are equal when their codes, digits and extensions are. -/
theorem isEqual_phoneNumber_iff (a b : StoredNumber) : (a.phoneNumber u).isEqual (b.phoneNumber u) ↔
    a.countryCode = b.countryCode ∧ a.digits = b.digits ∧ a.extension = b.extension := by
  obtain ⟨coded, numbered, extended, zeros, counted⟩ := phoneNumber_fields (u := u) a
  obtain ⟨coded', numbered', extended', zeros', counted'⟩ := phoneNumber_fields (u := u) b
  constructor
  · intro equal
    obtain ⟨code, national, italian, count, extension⟩ := (NBPhoneNumber.isEqual_iff coded numbered counted).mp equal
    have digits : a.digits = b.digits := by
      rw [← getNationalSignificantNumber_phoneNumber (u := u) a, ← getNationalSignificantNumber_phoneNumber (u := u) b]
      unfold getNationalSignificantNumber
      rw [numbered, counted, national, italian, count]
    rw [coded', Option.some.injEq] at code
    rw [extended, extended'] at extension
    exact ⟨code.symm, digits, extension.symm⟩
  · rintro ⟨code, digits, extension⟩
    have zero (stored : StoredNumber) : (stored.phoneNumber u).italianLeadingZero =
        (u.numberOf (some stored.countryCode) stored.digits stored.extension).italianLeadingZero := by
      rw [phoneNumber_eq]
    have count (stored : StoredNumber) : (stored.phoneNumber u).numberOfLeadingZeros =
        (u.numberOf (some stored.countryCode) stored.digits stored.extension).numberOfLeadingZeros := by
      rw [phoneNumber_eq]
    refine (NBPhoneNumber.isEqual_iff coded numbered counted).mpr ⟨?_, ?_, ?_, ?_, ?_⟩
    · rw [coded', code]
    · rw [numbered', digits]
    · rw [zero, zero, code, digits, extension]
    · rw [← counted, count, count, code, digits, extension]
    · rw [extended, extended', extension]

theorem isEqual_equivalence (u : NBPhoneNumberUtil) :
    Equivalence fun a b : StoredNumber => (a.phoneNumber u).isEqual (b.phoneNumber u) = true := by
  refine ⟨fun a => ?_, fun {a b} ab => ?_, fun {a b c} ab bc => ?_⟩
  · exact (isEqual_phoneNumber_iff a a).mpr ⟨rfl, rfl, rfl⟩
  · obtain ⟨code, digits, extension⟩ := (isEqual_phoneNumber_iff a b).mp ab
    exact (isEqual_phoneNumber_iff b a).mpr ⟨code.symm, digits.symm, extension.symm⟩
  · obtain ⟨code, digits, extension⟩ := (isEqual_phoneNumber_iff a b).mp ab
    obtain ⟨code', digits', extension'⟩ := (isEqual_phoneNumber_iff b c).mp bc
    exact (isEqual_phoneNumber_iff a c).mpr ⟨code.trans code', digits.trans digits', extension.trans extension'⟩

end StoredNumber

theorem eq_of_isEqualToNumber {a b : Option Int} (equal : isEqualToNumber a b) : a = b := by
  cases a with
  | none => cases equal
  | some a => exact (isEqualToNumber_some_iff.mp equal).symm

/-- Whatever is equal has the same hash. -/
theorem NBPhoneNumber.hash_eq_of_isEqual (hashes : ObjectHashes) {a b : NBPhoneNumber} (equal : a.isEqual b) :
    a.hash hashes = b.hash hashes := by
  unfold isEqual at equal
  rw [Bool.and_eq_true, Bool.and_eq_true, Bool.and_eq_true, Bool.and_eq_true] at equal
  obtain ⟨⟨⟨⟨code, national⟩, _⟩, zeros⟩, extension⟩ := equal
  unfold hash
  rw [eq_of_isEqualToNumber code, eq_of_isEqualToNumber national, eq_of_isEqualToNumber zeros, eq_of_beq extension]

/-- A copy is equal to its number, and has the fields that are not compared. -/
def Copies (phoneNumber again : NBPhoneNumber) : Prop :=
  phoneNumber.isEqual again ∧ again.rawInput = phoneNumber.rawInput ∧
    again.countryCodeSource = phoneNumber.countryCodeSource ∧
    again.preferredDomesticCarrierCode = phoneNumber.preferredDomesticCarrierCode

/-- Nothing of the digits is lost when they are stored, compared, copied and coded. -/
theorem stored_numbers_lossless (u : NBPhoneNumberUtil) (hashes : ObjectHashes) (coder : NSCoder) :
    (∀ stored : StoredNumber, getNationalSignificantNumber (stored.phoneNumber u) = stored.digits) ∧
    (∀ a b : StoredNumber, (a.phoneNumber u).isEqual (b.phoneNumber u) ↔
      a.countryCode = b.countryCode ∧ a.digits = b.digits ∧ a.extension = b.extension) ∧
    Equivalence (fun a b : StoredNumber => (a.phoneNumber u).isEqual (b.phoneNumber u) = true) ∧
    (∀ a b : NBPhoneNumber, a.isEqual b → a.hash hashes = b.hash hashes) ∧
    ∀ stored : StoredNumber, Copies (stored.phoneNumber u) (stored.phoneNumber u).copyWithZone ∧
      Copies (stored.phoneNumber u)
        (NBPhoneNumber.initWithCoder coder ((stored.phoneNumber u).encodeWithCoder coder coder.empty)) := by
  have copies (stored : StoredNumber) : Copies (stored.phoneNumber u) (stored.phoneNumber u) :=
    ⟨(StoredNumber.isEqual_phoneNumber_iff stored stored).mpr ⟨rfl, rfl, rfl⟩, rfl, rfl, rfl⟩
  refine ⟨StoredNumber.getNationalSignificantNumber_phoneNumber, StoredNumber.isEqual_phoneNumber_iff,
    StoredNumber.isEqual_equivalence u, fun a b => NBPhoneNumber.hash_eq_of_isEqual hashes, ?_⟩
  intro stored
  rw [NBPhoneNumber.copyWithZone_eq, NBPhoneNumber.initWithCoder_encodeWithCoder]
  exact ⟨copies stored, copies stored⟩

/-- Nothing but zeros, of which the last is the integer. -/
def storedZeros : StoredNumber where
  digits := ns "000"
  areDigits := by decide
  long := by decide
  short := by decide
  countryCode := 39
  extension := some (ns "5")
  rawInput := some (ns "000 ext. 5")
  countryCodeSource := some .FROM_DEFAULT_COUNTRY
  preferredDomesticCarrierCode := none

theorem stored_numbers_lossless_zeros :
    getNationalSignificantNumber (storedZeros.phoneNumber NBPhoneNumberUtil.plainRegion) = ns "000" ∧
      (storedZeros.phoneNumber NBPhoneNumberUtil.plainRegion).isEqual
        (storedZeros.phoneNumber NBPhoneNumberUtil.plainRegion).copyWithZone ∧
      (storedZeros.phoneNumber NBPhoneNumberUtil.plainRegion).hash ⟨fun n => UInt64.ofInt n, fun s => UInt64.ofNat s.length⟩ =
        (storedZeros.phoneNumber NBPhoneNumberUtil.plainRegion).copyWithZone.hash
          ⟨fun n => UInt64.ofInt n, fun s => UInt64.ofNat s.length⟩ := by
  have lossless := stored_numbers_lossless NBPhoneNumberUtil.plainRegion
    ⟨fun n => UInt64.ofInt n, fun s => UInt64.ofNat s.length⟩ NSCoder.dictionary
  have copied := (lossless.2.2.2.2 storedZeros).1.1
  exact ⟨lossless.1 storedZeros, copied, lossless.2.2.2.1 _ _ copied⟩

end SignalPods.PhoneNumber
