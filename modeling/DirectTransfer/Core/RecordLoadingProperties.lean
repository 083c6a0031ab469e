import DirectTransfer.Core.BookPersistence
import DirectTransfer.Core.RecordLoading

/-! One bad record does not cost the others, unless a conversion raises what the
loops do not catch: `OverflowError` for an integer no float can hold and for an
infinite port, and whatever a text raises that is not of JSON's own making. -/

set_option autoImplicit false

namespace DirectTransfer

open Library

/-! ## What is skipped -/

/-- What the loops over the records catch. -/
def Raised.Skipped (error : Raised) : Prop :=
  error.kind = .typeError ∨ error.kind.isValueError = true

/-- Nothing else is raised. -/
def OnlySkipped {α : Type} (attempt : Except Raised α) : Prop :=
  ∀ error, attempt = .error error → error.Skipped

namespace OnlySkipped

variable {α β : Type}

theorem ok (value : α) : OnlySkipped (.ok value) := nofun

theorem value (message : PyStr) : @OnlySkipped α (.error ⟨.valueError, message⟩) := by
  intro error same
  cases same
  exact .inr rfl

theorem endpoint (message : String) : @OnlySkipped α (.error (endpointError message)) := by
  intro error same
  cases same
  exact .inr rfl

theorem type (message : PyStr) : @OnlySkipped α (.error ⟨.typeError, message⟩) := by
  intro error same
  cases same
  exact .inl rfl

theorem bind {attempt : Except Raised α} {next : α → Except Raised β}
    (first : OnlySkipped attempt) (later : ∀ value, OnlySkipped (next value)) :
    OnlySkipped (attempt >>= next) := by
  cases attempt with
  | error error =>
      intro other same
      cases same
      exact first error rfl
  | ok value => exact later value

/-- What escapes a sequence comes of its second part when the first raises nothing else. -/
theorem continues {attempt : Except Raised α} {next : α → Except Raised β} {error : Raised}
    (first : OnlySkipped attempt) (failed : (attempt >>= next) = .error error)
    (escapes : ¬ error.Skipped) : ∃ value, attempt = .ok value ∧ next value = .error error := by
  cases attempt with
  | error other =>
      cases failed
      exact absurd (first _ rfl) escapes
  | ok value => exact ⟨value, rfl, failed⟩

theorem ite {condition : Prop} [Decidable condition] {first second : Except Raised α}
    (holds : OnlySkipped first) (fails : OnlySkipped second) :
    OnlySkipped (if condition then first else second) := by
  split
  · exact holds
  · exact fails

end OnlySkipped

theorem except_bind_ok {α β : Type} {attempt : Except Raised α} {next : α → Except Raised β}
    {result : β} (passed : (attempt >>= next) = .ok result) :
    ∃ value, attempt = .ok value ∧ next value = .ok result := by
  cases attempt with
  | error error => cases passed
  | ok value => exact ⟨value, rfl, passed⟩

/-! ## The loop -/

section Loop

variable {α : Type} {convert : PyStr → Json → Except Raised α}

theorem loadRecords_ends_iff {records : List (PyStr × Json)} {loaded : Dict PyStr α} :
    (∃ result, loadRecords convert records loaded = .ok result) ↔
      ∀ key value, (key, value) ∈ records →
        ∀ error, convert key value = .error error → error.Skipped := by
  induction records generalizing loaded with
  | nil => simp [loadRecords]
  | cons entry rest ih =>
      obtain ⟨key, value⟩ := entry
      simp only [loadRecords, List.mem_cons, Prod.mk.injEq]
      cases converted : convert key value with
      | ok record =>
          simp only [ih]
          constructor
          · intro later other payload member error failed
            rcases member with ⟨rfl, rfl⟩ | member
            · rw [converted] at failed
              cases failed
            · exact later other payload member error failed
          · intro all other payload member
            exact all other payload (.inr member)
      | error error =>
          by_cases skipped : error.kind = .typeError ∨ error.kind.isValueError = true
          · simp only [skipped, ↓reduceIte, ih]
            constructor
            · intro later other payload member failure failed
              rcases member with ⟨rfl, rfl⟩ | member
              · rw [converted] at failed
                cases failed
                exact skipped
              · exact later other payload member failure failed
            · intro all other payload member
              exact all other payload (.inr member)
          · simp only [skipped, ↓reduceIte, reduceCtorEq, exists_false, false_iff]
            intro all
            exact skipped (all key value (.inl ⟨rfl, rfl⟩) error converted)

theorem loadRecords_get {records : List (PyStr × Json)} {loaded result : Dict PyStr α}
    (distinct : (records.map Prod.fst).Nodup)
    (ended : loadRecords convert records loaded = .ok result) (key : PyStr) (record : α) :
    result.get key = some record ↔
      (∃ value, (key, value) ∈ records ∧ convert key value = .ok record) ∨
        loaded.get key = some record ∧
          ∀ value other, (key, value) ∈ records → convert key value ≠ .ok other := by
  induction records generalizing loaded with
  | nil =>
      cases ended
      simp
  | cons entry rest ih =>
      obtain ⟨first, value⟩ := entry
      simp only [List.map_cons, List.nodup_cons] at distinct
      have absent : ∀ payload, (first, payload) ∉ rest := fun payload member =>
        distinct.1 (List.mem_map.mpr ⟨_, member, rfl⟩)
      simp only [loadRecords] at ended
      cases converted : convert first value with
      | ok kept =>
          simp only [converted] at ended
          rw [ih distinct.2 ended, Dict.get_set]
          by_cases here : key = first
          · subst here
            simp [absent, converted, eq_comm]
          · simp [here, List.mem_cons]
      | error error =>
          simp only [converted] at ended
          split at ended
          · rw [ih distinct.2 ended]
            by_cases here : key = first
            · subst here
              simp [absent, converted]
              intro _ payload other same
              rw [same, converted]
              exact nofun
            · simp [here]
          · cases ended

end Loop

/-! ## Files -/

/-- The records of a file, none where it cannot be read as a store. -/
def recordsIn (reader : FileReader) : StoredFile → List (PyStr × Json)
  | .absent | .unreadable => []
  | .content octets => match reader.read octets >>= devicesOf with
    | .ok records => records
    | .error _ => []

/-- UTF-8, and a text that is JSON or that the parser refuses as malformed. -/
def Legible (reader : FileReader) (file : StoredFile) : Prop :=
  ∀ octets, file = .content octets → ∃ text, reader.utf8 octets = some text ∧
    ∀ error, reader.parse text = .error error → error.kind = .jsonDecodeError

theorem devicesOf_error {payload : Json} {error : Raised} (failed : devicesOf payload = .error error) :
    error.kind = .typeError := by
  unfold devicesOf at failed
  repeat' split at failed
  all_goals cases failed
  all_goals rfl

theorem devicesOf_distinct {payload : Json} {records : List (PyStr × Json)}
    (formed : payload.WellFormed) (read : devicesOf payload = .ok records) :
    (records.map Prod.fst).Nodup := by
  unfold devicesOf at read
  split at read
  · next fields =>
      split at read
      · cases read
        exact List.nodup_nil
      · next devices found =>
          cases read
          have inner := (Json.wellFormedFields_iff _).mp formed.2 _ (findEntry_mem found)
          exact inner.2.1
      · cases read
  · cases read

theorem recordsIn_distinct (reader : FileReader) (file : StoredFile) :
    ((recordsIn reader file).map Prod.fst).Nodup := by
  cases file with
  | absent => exact List.nodup_nil
  | unreadable => exact List.nodup_nil
  | content octets =>
      simp only [recordsIn]
      cases read : reader.read octets with
      | error error => exact List.nodup_nil
      | ok payload =>
          simp only [bind, Except.bind]
          cases taken : devicesOf payload with
          | error error => exact List.nodup_nil
          | ok records =>
              unfold FileReader.read at read
              split at read
              · cases read
              · exact devicesOf_distinct (reader.formed _ _ read) taken

theorem loadFile_ends_iff {α : Type} {convert : PyStr → Json → Except Raised α}
    {reader : FileReader} {file : StoredFile} :
    (∃ result, loadFile reader convert file = .ok result) ↔ Legible reader file ∧
      ∀ key value, (key, value) ∈ recordsIn reader file →
        ∀ error, convert key value = .error error → error.Skipped := by
  cases file with
  | absent => simp [loadFile, Legible, recordsIn]
  | unreadable => simp [loadFile, Legible, recordsIn]
  | content octets =>
      simp only [loadFile, Legible, recordsIn, StoredFile.content.injEq, forall_eq']
      cases decoded : reader.utf8 octets with
      | none => simp [FileReader.read, decoded, bind, Except.bind, raised, ErrorKind.isOSError]
      | some text =>
          cases parsed : reader.parse text with
          | ok payload =>
              simp only [FileReader.read, decoded, parsed, bind, Except.bind, Option.some.injEq,
                exists_eq_left', reduceCtorEq, false_implies, implies_true, true_and]
              cases taken : devicesOf payload with
              | ok records => exact loadRecords_ends_iff
              | error error => simp [devicesOf_error taken]
          | error error =>
              simp only [FileReader.read, decoded, parsed, bind, Except.bind, Option.some.injEq,
                exists_eq_left', Except.error.injEq, forall_eq', List.not_mem_nil, false_implies,
                implies_true, and_true]
              rcases reader.failures text error parsed with kind | kind | kind <;>
                simp [kind, ErrorKind.isOSError]

theorem loadFile_get {α : Type} {convert : PyStr → Json → Except Raised α} {reader : FileReader}
    {file : StoredFile} {result : Dict PyStr α} (ended : loadFile reader convert file = .ok result)
    (key : PyStr) (record : α) : result.get key = some record ↔
      ∃ value, (key, value) ∈ recordsIn reader file ∧ convert key value = .ok record := by
  have distinct := recordsIn_distinct reader file
  cases file with
  | absent =>
      cases ended
      simp [recordsIn]
  | unreadable =>
      cases ended
      simp [recordsIn]
  | content octets =>
      simp only [loadFile, recordsIn] at ended distinct ⊢
      cases read : reader.read octets >>= devicesOf with
      | ok records =>
          rw [read] at ended distinct
          rw [loadRecords_get distinct ended]
          simp
      | error error =>
          simp only [read] at ended
          split at ended
          · cases ended
            simp
          · cases ended

/-! ## Timestamps -/

/-- A number that a float holds and that is not negative. -/
inductive IsTimestamp : Json → Prop where
  | int {number : Int} : 0 ≤ number → number.natAbs < floatLimit → IsTimestamp (.int number)
  | float {number : Rat} : 0 ≤ number → IsTimestamp (.float (.finite number))
  | negativeZero : IsTimestamp (.float .negativeZero)

/-- An integer no float holds. -/
inductive IsHuge : Json → Prop where
  | int {number : Int} : floatLimit ≤ number.natAbs → IsHuge (.int number)

/-- What the check of a timestamp may come to. -/
inductive TimestampChecked (message : String) (value : Json) : Except Raised Unit → Prop where
  | passes : IsTimestamp value → TimestampChecked message value (.ok ())
  | overflows : IsHuge value →
      TimestampChecked message value (.error (raised .overflowError "int too large to convert to float"))
  | fails : ¬ IsTimestamp value → ¬ IsHuge value →
      TimestampChecked message value (.error (raised .valueError message))

theorem timestampChecked (message : String) (value : Json) :
    TimestampChecked message value (checkTimestamp message value) := by
  unfold checkTimestamp
  split
  · next number =>
      split
      · next huge => exact .overflows (.int huge)
      · next held =>
          split
          · next negative =>
              apply TimestampChecked.fails
              · intro timestamp
                cases timestamp with
                | int positive _ => omega
              · intro huge
                cases huge with
                | int limit => exact held limit
          · exact .passes (.int (by omega) (by omega))
  · next number =>
      split
      · next negative =>
          apply TimestampChecked.fails
          · intro timestamp
            cases timestamp with
            | float positive => exact absurd negative (not_lt.mpr positive)
          · exact nofun
      · next positive => exact .passes (.float (not_lt.mp positive))
  · exact .passes .negativeZero
  · next noInt noFinite noZero =>
      apply TimestampChecked.fails
      · intro timestamp
        cases timestamp with
        | int => exact noInt _ rfl
        | float => exact noFinite _ rfl
        | negativeZero => exact noZero rfl
      · intro huge
        cases huge with
        | int => exact noInt _ rfl

theorem checkTimestamp_iff {message : String} {value : Json} :
    checkTimestamp message value = .ok () ↔ IsTimestamp value := by
  have checked := timestampChecked message value
  generalize checkTimestamp message value = outcome at checked
  cases checked with
  | passes timestamp => simp [timestamp]
  | overflows huge =>
      cases huge with
      | int limit =>
          simp only [reduceCtorEq, false_iff]
          intro timestamp
          cases timestamp with
          | int _ held => exact absurd limit (by omega)
  | fails notTimestamp _ => simp [notTimestamp]

/-- What `float` raises for an integer it cannot hold. -/
def tooLarge : Raised := raised .overflowError "int too large to convert to float"

theorem tooLarge_escapes : ¬ tooLarge.Skipped := by
  rintro (type | value)
  · cases type
  · cases value

/-- An exception that is not skipped comes of a huge time, or of what follows a good one. -/
theorem checkTimestamp_escapes {α : Type} {message : String} {value : Json}
    {next : Unit → Except Raised α} {error : Raised}
    (failed : (checkTimestamp message value >>= next) = .error error) (escapes : ¬ error.Skipped) :
    IsHuge value ∨ IsTimestamp value ∧ next () = .error error := by
  have checked := timestampChecked message value
  generalize checkTimestamp message value = outcome at checked failed
  cases checked with
  | passes timestamp => exact .inr ⟨timestamp, failed⟩
  | overflows huge => exact .inl huge
  | fails _ _ =>
      cases failed
      exact absurd (.inr rfl) escapes

theorem checkTimestamp_continues {α : Type} {message : String} {value : Json}
    {next : Unit → Except Raised α} {result : α}
    (passed : (checkTimestamp message value >>= next) = .ok result) :
    IsTimestamp value ∧ next () = .ok result := by
  cases checked : checkTimestamp message value with
  | error error =>
      rw [checked] at passed
      cases passed
  | ok =>
      rw [checked] at passed
      exact ⟨checkTimestamp_iff.mp checked, passed⟩

theorem checkTimestamp_huge {α : Type} {message : String} {value : Json}
    {next : Unit → Except Raised α} (huge : IsHuge value) :
    (checkTimestamp message value >>= next) = .error tooLarge := by
  cases huge with
  | int limit => simp [checkTimestamp, limit, bind, Except.bind, tooLarge]

/-! ## Trusted devices -/

theorem checkKeywords_error {required optional : List String} {record : Json} {error : Raised}
    (failed : checkKeywords required optional record = .error error) : error.kind = .typeError := by
  unfold checkKeywords at failed
  repeat' split at failed
  all_goals cases failed
  all_goals rfl

theorem checkKeywords_ok {required optional : List String} {record : Json}
    (passed : checkKeywords required optional record = .ok ()) : record.isDict = true := by
  unfold checkKeywords at passed
  split at passed
  · rfl
  · cases passed

namespace StoredDevice

variable {digests : Digests} {platform : Platform}

/-- Everything about a record but its times. -/
structure Identified (digests : Digests) (platform : Platform) (key : PyStr)
    (device : StoredDevice) : Prop where
  deviceId : device.deviceId = .str key
  publicKey : ∃ text fingerprint, device.publicKey = .str text ∧
    TrustStore.validate digests key text = .ok () ∧
    fingerprintFromPublicKey digests text = .ok fingerprint ∧ device.fingerprint = .str fingerprint
  hostname : ∃ text, device.hostname = .str text ∧ isHostname platform text = true
  status : device.status = .str (py "trusted") ∨ device.status = .str (py "rejected")

/-- A record under its own key that passes every check. -/
structure Valid (digests : Digests) (platform : Platform) (key : PyStr) (device : StoredDevice) :
    Prop extends Identified digests platform key device where
  firstTrustedAt : IsTimestamp device.firstTrustedAt
  lastSeenAt : IsTimestamp device.lastSeenAt

/-- The record reaches the check of a time that no float holds. -/
structure Overflows (digests : Digests) (platform : Platform) (key : PyStr)
    (device : StoredDevice) : Prop extends Identified digests platform key device where
  huge : IsHuge device.firstTrustedAt ∨
    IsTimestamp device.firstTrustedAt ∧ IsHuge device.lastSeenAt

theorem trustedDevice_ok {record : Json} {device : StoredDevice}
    (built : trustedDevice record = .ok device) :
    record.isDict = true ∧ device.deviceId = record.field "device_id" := by
  unfold trustedDevice at built
  simp only [bind, Except.bind, pure, Except.pure] at built
  split at built
  · cases built
  · next checked =>
      cases built
      exact ⟨checkKeywords_ok checked, rfl⟩

theorem trustedDevice_error {record : Json} {error : Raised}
    (failed : trustedDevice record = .error error) : error.Skipped := by
  unfold trustedDevice at failed
  simp only [bind, Except.bind, pure, Except.pure] at failed
  split at failed
  · next unchecked =>
      cases failed
      exact .inl (checkKeywords_error unchecked)
  · cases failed

/-- `validateRecord` up to the timestamps. -/
def validatePlain (digests : Digests) (platform : Platform) (device : StoredDevice) :
    Except Raised Unit := do
  let publicKey ← device.validate digests
  device.validateHostname platform
  device.validateStatus
  if device.fingerprint ≠ .str (← fingerprintFromPublicKey digests publicKey) then
    throw (raised .valueError "Invalid identity fingerprint")

theorem validateRecord_eq (device : StoredDevice) : device.validateRecord digests platform =
    (device.validatePlain digests platform >>= fun _ =>
      checkTimestamp "Invalid trust timestamp" device.firstTrustedAt >>= fun _ =>
        checkTimestamp "Invalid trust timestamp" device.lastSeenAt) := by
  unfold validateRecord validatePlain
  simp only [bind, Except.bind, pure, Except.pure]
  repeat' split
  all_goals simp_all

theorem onlySkipped_trustStoreValidate (deviceId publicKey : PyStr) :
    OnlySkipped (TrustStore.validate digests deviceId publicKey) := by
  have decoded : OnlySkipped (decodePublicKey digests publicKey) := by
    unfold decodePublicKey
    repeat' split
    all_goals first | exact .value _ | exact .ok _
  have derived : OnlySkipped (deviceIdFromPublicKey digests publicKey) := by
    unfold deviceIdFromPublicKey
    split
    · exact .value _
    · exact .ok _
  refine .bind decoded fun _ => ?_
  exact .ite (.bind (.value _) fun _ => .bind derived fun _ => .ite (.value _) (.ok _))
    (.bind derived fun _ => .ite (.value _) (.ok _))

theorem onlySkipped_validate (device : StoredDevice) : OnlySkipped (device.validate digests) := by
  unfold validate
  split
  · exact .bind (onlySkipped_trustStoreValidate _ _) fun _ => .ok _
  · refine .bind ?_ fun _ => .value _
    unfold decodePublicKey
    repeat' split
    all_goals first | exact .value _ | exact .ok _
  · exact .value _

theorem onlySkipped_validatePlain (device : StoredDevice) :
    OnlySkipped (device.validatePlain digests platform) := by
  refine .bind (onlySkipped_validate device) fun publicKey => .bind ?_ fun _ => .bind ?_ fun _ => ?_
  · unfold validateHostname
    repeat' split
    all_goals first | exact .ok _ | exact .value _
  · unfold validateStatus
    repeat' split
    all_goals first | exact .ok _ | exact .value _ | exact .type _
  · refine .bind ?_ fun _ => .ite (.value _) (.ok _)
    unfold fingerprintFromPublicKey
    split
    · exact .value _
    · exact .ok _

theorem validate_iff {device : StoredDevice} {key publicKey : PyStr}
    (named : device.deviceId = .str key) : device.validate digests = .ok publicKey ↔
      device.publicKey = .str publicKey ∧ TrustStore.validate digests key publicKey = .ok () := by
  unfold validate
  rw [named]
  cases shown : device.publicKey with
  | str text =>
      simp only [Json.str.injEq, bind, Except.bind, pure, Except.pure]
      cases checked : TrustStore.validate digests key text with
      | ok =>
          simp only [Except.ok.injEq]
          constructor
          · intro same
            subst same
            exact ⟨rfl, checked⟩
          · exact And.left
      | error error =>
          simp only [reduceCtorEq, false_iff, not_and]
          intro same
          subst same
          simp [checked]
  | _ => simp

theorem validateHostname_iff {device : StoredDevice} :
    device.validateHostname platform = .ok () ↔
      ∃ text, device.hostname = .str text ∧ isHostname platform text = true := by
  unfold validateHostname
  cases device.hostname <;> simp

theorem validateStatus_iff {device : StoredDevice} : device.validateStatus = .ok () ↔
    device.status = .str (py "trusted") ∨ device.status = .str (py "rejected") := by
  unfold validateStatus
  cases device.status <;> simp [or_iff_not_imp_left]

theorem validatePlain_iff {device : StoredDevice} {key : PyStr}
    (named : device.deviceId = .str key) :
    device.validatePlain digests platform = .ok () ↔ Identified digests platform key device := by
  unfold validatePlain
  simp only [bind, Except.bind, throw, throwThe, MonadExceptOf.throw, pure, Except.pure]
  constructor
  · intro passed
    split at passed
    · cases passed
    next publicKey validated =>
    split at passed
    · cases passed
    next hostnamed =>
    split at passed
    · cases passed
    next judged =>
    split at passed
    · cases passed
    next fingerprint derived =>
    split at passed
    · cases passed
    next same =>
    obtain ⟨shown, checked⟩ := (validate_iff named).mp validated
    exact ⟨named, ⟨publicKey, fingerprint, shown, checked, derived, not_not.mp same⟩,
      validateHostname_iff.mp hostnamed, validateStatus_iff.mp judged⟩
  · intro identified
    obtain ⟨publicKey, fingerprint, shown, checked, derived, same⟩ := identified.publicKey
    simp [(validate_iff named).mpr ⟨shown, checked⟩,
      validateHostname_iff.mpr identified.hostname, validateStatus_iff.mpr identified.status,
      derived, same]

/-- A record that can be built at all comes under a key, passes the checks
before the times or not, and then those of its times. -/
theorem load_built {key : PyStr} {record : Json} {device : StoredDevice}
    (built : trustedDevice record = .ok device) : load digests platform key record =
      if device.deviceId = .str key then
        (device.validatePlain digests platform >>= fun _ =>
          checkTimestamp "Invalid trust timestamp" device.firstTrustedAt >>= fun _ =>
            checkTimestamp "Invalid trust timestamp" device.lastSeenAt >>= fun _ => .ok device)
      else .error (raised .valueError "record key does not match device ID") := by
  obtain ⟨dict, named⟩ := trustedDevice_ok built
  unfold load
  simp only [built, bind, Except.bind, pure, Except.pure, throw, throwThe, MonadExceptOf.throw,
    validateRecord_eq, dict, named]
  repeat' split
  all_goals simp_all

theorem load_unbuilt {key : PyStr} {record : Json} {error : Raised}
    (failed : trustedDevice record = .error error) :
    ∃ failure, load digests platform key record = .error failure ∧ failure.Skipped := by
  unfold load
  simp only [failed, bind, Except.bind, throw, throwThe, MonadExceptOf.throw]
  split
  · exact ⟨_, rfl, .inr rfl⟩
  · exact ⟨_, rfl, trustedDevice_error failed⟩

theorem load_ok_iff {key : PyStr} {record : Json} {device : StoredDevice} :
    load digests platform key record = .ok device ↔
      trustedDevice record = .ok device ∧ Valid digests platform key device := by
  constructor
  · intro loaded
    cases built : trustedDevice record with
    | error error =>
        obtain ⟨failure, failed, _⟩ := @load_unbuilt digests platform key _ _ built
        rw [failed] at loaded
        cases loaded
    | ok other =>
        rw [load_built built] at loaded
        split at loaded
        · next named =>
            cases plain : other.validatePlain digests platform with
            | error error =>
                rw [plain] at loaded
                cases loaded
            | ok =>
                rw [plain] at loaded
                obtain ⟨first, loaded⟩ := checkTimestamp_continues loaded
                obtain ⟨last, loaded⟩ := checkTimestamp_continues loaded
                cases loaded
                exact ⟨rfl, (validatePlain_iff named).mp plain, first, last⟩
        · cases loaded
  · intro valid
    obtain ⟨built, valid⟩ := valid
    rw [load_built built, if_pos valid.deviceId]
    simp only [(validatePlain_iff valid.deviceId).mpr valid.toIdentified,
      checkTimestamp_iff.mpr valid.firstTrustedAt, checkTimestamp_iff.mpr valid.lastSeenAt, bind,
      Except.bind]

theorem load_escapes_iff {key : PyStr} {record : Json} :
    (∃ error, load digests platform key record = .error error ∧ ¬ error.Skipped) ↔
      ∃ device, trustedDevice record = .ok device ∧ Overflows digests platform key device := by
  constructor
  · intro escaped
    obtain ⟨error, failed, escapes⟩ := escaped
    cases built : trustedDevice record with
    | error other =>
        obtain ⟨failure, same, skipped⟩ := @load_unbuilt digests platform key _ _ built
        rw [failed] at same
        cases same
        exact absurd skipped escapes
    | ok device =>
        rw [load_built built] at failed
        split at failed
        · next named =>
            refine ⟨device, rfl, ?_⟩
            cases plain : device.validatePlain digests platform with
            | error other =>
                rw [plain] at failed
                cases failed
                exact absurd (onlySkipped_validatePlain device _ plain) escapes
            | ok =>
                have identified := (validatePlain_iff named).mp plain
                rw [plain] at failed
                rcases checkTimestamp_escapes failed escapes with huge | ⟨timestamp, failed⟩
                · exact ⟨identified, .inl huge⟩
                · rcases checkTimestamp_escapes failed escapes with huge | ⟨_, ended⟩
                  · exact ⟨identified, .inr ⟨timestamp, huge⟩⟩
                  · cases ended
        · cases failed
          exact absurd (.inr rfl) escapes
  · intro overflows
    obtain ⟨device, built, overflows⟩ := overflows
    rw [load_built built, if_pos overflows.deviceId,
      (validatePlain_iff overflows.deviceId).mpr overflows.toIdentified]
    refine ⟨_, ?_, tooLarge_escapes⟩
    rcases overflows.huge with huge | ⟨timestamp, huge⟩
    · exact checkTimestamp_huge huge
    · show (checkTimestamp _ _ >>= _) = _
      rw [checkTimestamp_iff.mpr timestamp]
      exact checkTimestamp_huge huge

end StoredDevice

/-! ## Entries of the address book -/

namespace StoredEntry

variable {reader : FileReader} {digests : Digests} {platform : Platform}

/-- A host that passes the checks before the port's. -/
def HostRead (host : PyStr) : Prop :=
  host ≠ [] ∧ host = strip host ∧ host.any CodePoint.isSpace = false ∧ host.length ≤ 253

/-- The values `Endpoint` takes. -/
def Reachable (reader : FileReader) (platform : Platform) (host port : Json) : Prop :=
  ∃ text number checked, host = .str text ∧ portNumber reader port = .ok number ∧
    checkEndpoint platform text number = .ok checked

/-- An infinite port next to a host that is read. -/
def PortOverflows (host port : Json) : Prop :=
  ∃ text negative, host = .str text ∧ HostRead text ∧ port = .float (.infinity negative)

/-- What `int` raises for an infinite float. -/
def infinitePort : Raised := raised .overflowError "cannot convert float infinity to integer"

theorem infinitePort_escapes : ¬ infinitePort.Skipped := by
  rintro (type | value)
  · cases type
  · cases value

theorem portNumber_error {port : Json} {error : Raised}
    (failed : portNumber reader port = .error error) :
    error.Skipped ∨ error = infinitePort ∧ ∃ negative, port = .float (.infinity negative) := by
  unfold portNumber at failed
  repeat' split at failed
  all_goals cases failed
  · exact .inl (.inl rfl)
  · next negative => exact .inr ⟨rfl, negative, rfl⟩
  · exact .inl (.inr rfl)
  · exact .inl (.inr rfl)

theorem onlySkipped_validatePort (number : Int) : OnlySkipped (validatePort number) :=
  .ite (.ok _) (.value _)

theorem onlySkipped_validateHost (host : PyStr) : OnlySkipped (validateHost platform host) :=
  .ite (.ok _) (.ite (.endpoint _) (.ite (.endpoint _) (.ite (.endpoint _) (.ok _))))

theorem onlySkipped_asEndpointError {α : Type} {attempt : Except Raised α}
    (first : OnlySkipped attempt) : OnlySkipped (asEndpointError attempt) := by
  intro error failed
  rw [Raised.Skipped, asEndpointError_error first failed]
  exact .inr rfl

theorem asEndpointError_escapes {α : Type} {error : Raised} (escapes : ¬ error.Skipped) :
    @asEndpointError α (.error error) = .error error := by
  rw [Raised.Skipped] at escapes
  simp [asEndpointError, escapes]

/-- What the checks of an endpoint may come to. -/
inductive EndpointChecked (reader : FileReader) (platform : Platform) (host port : Json) :
    Except Raised Unit → Prop where
  | passes : Reachable reader platform host port → EndpointChecked reader platform host port (.ok ())
  | overflows : PortOverflows host port →
      EndpointChecked reader platform host port (.error infinitePort)
  | fails {error : Raised} : ¬ Reachable reader platform host port → ¬ PortOverflows host port →
      error.Skipped → EndpointChecked reader platform host port (.error error)

theorem hostRead_iff {host : PyStr} : HostRead host ↔ ¬ host = [] ∧
    ¬ (host ≠ strip host ∨ host.any CodePoint.isSpace = true) ∧ ¬ 253 < host.length := by
  simp [HostRead, and_assoc]

theorem checkEndpoint_unread {host : PyStr} {number : Int} (unread : ¬ HostRead host) :
    ∃ error, checkEndpoint platform host number = .error error := by
  rw [hostRead_iff] at unread
  unfold checkEndpoint
  simp only [bind, Except.bind, pure, Except.pure, throw, throwThe, MonadExceptOf.throw]
  repeat' split
  all_goals first | exact ⟨_, rfl⟩ | exact absurd ⟨‹_›, ‹_›, ‹_›⟩ unread

theorem checkEndpoint_read {host : PyStr} {number : Int} (read : HostRead host) :
    checkEndpoint platform host number = (asEndpointError (validatePort number) >>= fun port =>
      validateHost platform host >>= fun _ => .ok port) := by
  obtain ⟨nonempty, solid, short⟩ := hostRead_iff.mp read
  unfold checkEndpoint
  simp only [nonempty, solid, short, ↓reduceIte]
  rfl

theorem checkStoredEndpoint_unread {host : PyStr} {port : Json} (unread : ¬ HostRead host) :
    ∃ error, checkStoredEndpoint reader platform (.str host) port = .error error ∧
      error.Skipped := by
  rw [hostRead_iff] at unread
  unfold checkStoredEndpoint
  simp only [bind, Except.bind, throw, throwThe, MonadExceptOf.throw]
  repeat' split
  all_goals first | exact ⟨_, rfl, .inr rfl⟩ | exact absurd ⟨‹_›, ‹_›, ‹_›⟩ unread

theorem checkStoredEndpoint_read {host : PyStr} {port : Json} (read : HostRead host) :
    checkStoredEndpoint reader platform (.str host) port =
      (asEndpointError (portNumber reader port >>= validatePort) >>= fun _ =>
        validateHost platform host) := by
  obtain ⟨nonempty, solid, short⟩ := hostRead_iff.mp read
  unfold checkStoredEndpoint
  simp only [nonempty, solid, short, ↓reduceIte]

theorem checkEndpoint_ok_iff {host : PyStr} {number : Int} (read : HostRead host) :
    (∃ port, checkEndpoint platform host number = .ok port) ↔
      (asEndpointError (validatePort number) >>= fun _ => validateHost platform host) = .ok () := by
  rw [checkEndpoint_read read]
  cases asEndpointError (validatePort number) with
  | error error => simp [bind, Except.bind]
  | ok port =>
      simp only [bind, Except.bind]
      cases validateHost platform host <;> simp

theorem endpointChecked (host port : Json) :
    EndpointChecked reader platform host port (checkStoredEndpoint reader platform host port) := by
  cases host with
  | str host =>
      by_cases read : HostRead host
      · rw [checkStoredEndpoint_read read]
        cases numbered : portNumber reader port with
        | ok number =>
            have finite : ¬ PortOverflows (.str host) port := by
              intro overflows
              obtain ⟨_, _, _, _, rfl⟩ := overflows
              cases numbered
            have passes : ((Except.ok number : Except Raised Int) >>= validatePort) =
                validatePort number := rfl
            rw [passes]
            cases checked : (asEndpointError (validatePort number) >>= fun _ =>
              validateHost platform host) with
            | ok =>
                obtain ⟨checked, passed⟩ := (checkEndpoint_ok_iff read).mpr checked
                exact .passes ⟨host, number, checked, rfl, numbered, passed⟩
            | error error =>
                apply EndpointChecked.fails _ finite
                · exact OnlySkipped.bind (onlySkipped_asEndpointError (onlySkipped_validatePort number))
                    (fun _ => onlySkipped_validateHost host) error checked
                · intro reachable
                  obtain ⟨_, other, port, same, others, passed⟩ := reachable
                  cases same
                  rw [numbered] at others
                  cases others
                  rw [(checkEndpoint_ok_iff read).mp ⟨port, passed⟩] at checked
                  cases checked
        | error error =>
            have unreachable : ¬ Reachable reader platform (.str host) port := by
              intro reachable
              obtain ⟨_, number, _, _, read, _⟩ := reachable
              rw [numbered] at read
              cases read
            rcases portNumber_error numbered with skipped | ⟨rfl, negative, rfl⟩
            · have caught : asEndpointError
                  ((Except.error error : Except Raised Int) >>= validatePort) =
                    .error ⟨.endpointError, error.message⟩ := if_pos skipped
              rw [caught]
              refine .fails unreachable ?_ (.inr rfl)
              intro overflows
              obtain ⟨_, negative, _, _, rfl⟩ := overflows
              cases numbered
              exact infinitePort_escapes skipped
            · have raised : ((Except.error infinitePort : Except Raised Int) >>= validatePort) =
                  .error infinitePort := rfl
              rw [raised, asEndpointError_escapes infinitePort_escapes]
              exact .overflows ⟨host, negative, rfl, read, rfl⟩
      · obtain ⟨error, failed, skipped⟩ := @checkStoredEndpoint_unread reader platform host port read
        rw [failed]
        apply EndpointChecked.fails
        · intro reachable
          obtain ⟨_, number, _, same, _, checked⟩ := reachable
          cases same
          obtain ⟨error, refused⟩ := @checkEndpoint_unread platform host number read
          rw [refused] at checked
          cases checked
        · intro overflows
          obtain ⟨_, _, same, hostRead, _⟩ := overflows
          cases same
          exact read hostRead
        · exact skipped
  | _ =>
      apply EndpointChecked.fails
      · intro reachable
        obtain ⟨_, _, _, same, _⟩ := reachable
        cases same
      · intro overflows
        obtain ⟨_, _, same, _⟩ := overflows
        cases same
      · exact .inr rfl

/-- What an entry is checked for before its times. -/
structure Described (reader : FileReader) (digests : Digests) (platform : Platform) (key : PyStr)
    (entry : StoredEntry) : Prop where
  deviceId : entry.deviceId = .str key
  identity : entry.validIdentity digests = true
  endpoint : Reachable reader platform entry.lastHostname entry.transferPort
  friendlyName : ∃ name, entry.friendlyName = .str name ∧ isFriendlyName platform name = true
  resolvedIp : entry.lastResolvedIp = .null ∨
    ∃ ip, entry.lastResolvedIp = .str ip ∧ (ipVersion ip).isSome = true

/-- An entry under its own key that passes every check. -/
structure Valid (reader : FileReader) (digests : Digests) (platform : Platform) (key : PyStr)
    (entry : StoredEntry) : Prop extends Described reader digests platform key entry where
  connection : entry.lastSuccessfulConnection = .null ∨ IsTimestamp entry.lastSuccessfulConnection
  error : entry.lastConnectionError = .null ∨ ∃ error, entry.lastConnectionError = .str error ∧
    error.length ≤ 512 ∧ error.all platform.isPrintable = true

/-- The entry reaches the conversion of an infinite port, or of a time that no float holds. -/
inductive Overflows (reader : FileReader) (digests : Digests) (platform : Platform) (key : PyStr)
    (entry : StoredEntry) : Prop where
  | port : entry.deviceId = .str key → entry.validIdentity digests = true →
      PortOverflows entry.lastHostname entry.transferPort →
      Overflows reader digests platform key entry
  | connection : Described reader digests platform key entry →
      IsHuge entry.lastSuccessfulConnection → Overflows reader digests platform key entry

theorem addressBookEntry_error {value : Json} {error : Raised}
    (failed : addressBookEntry value = .error error) : error.Skipped := by
  unfold addressBookEntry at failed
  simp only [bind, Except.bind, pure, Except.pure] at failed
  split at failed
  · next unchecked =>
      cases failed
      exact .inl (checkKeywords_error unchecked)
  · cases failed

theorem addressBookEntry_dict {value : Json} {entry : StoredEntry}
    (built : addressBookEntry value = .ok entry) : value.isDict = true := by
  unfold addressBookEntry at built
  simp only [bind, Except.bind, pure, Except.pure] at built
  split at built
  · cases built
  · next checked => exact checkKeywords_ok checked

theorem validateFriendlyName_iff {entry : StoredEntry} :
    entry.validateFriendlyName platform = .ok () ↔
      ∃ name, entry.friendlyName = .str name ∧ isFriendlyName platform name = true := by
  unfold validateFriendlyName
  cases entry.friendlyName <;> simp

theorem validateResolvedIp_iff {entry : StoredEntry} : entry.validateResolvedIp = .ok () ↔
    entry.lastResolvedIp = .null ∨
      ∃ ip, entry.lastResolvedIp = .str ip ∧ (ipVersion ip).isSome = true := by
  unfold validateResolvedIp
  cases entry.lastResolvedIp <;> simp [Option.isSome_iff_ne_none]

theorem validateError_iff {entry : StoredEntry} : entry.validateError platform = .ok () ↔
    entry.lastConnectionError = .null ∨ ∃ error, entry.lastConnectionError = .str error ∧
      error.length ≤ 512 ∧ error.all platform.isPrintable = true := by
  unfold validateError
  cases entry.lastConnectionError <;> simp

theorem onlySkipped_fields (entry : StoredEntry) :
    OnlySkipped (entry.validateFriendlyName platform) ∧ OnlySkipped entry.validateResolvedIp ∧
      OnlySkipped (entry.validateError platform) := by
  refine ⟨?_, ?_, ?_⟩
  · unfold validateFriendlyName
    repeat' split
    all_goals first | exact .ok _ | exact .value _
  · unfold validateResolvedIp
    repeat' split
    all_goals first | exact .ok _ | exact .value _
  · unfold validateError
    repeat' split
    all_goals first | exact .ok _ | exact .value _

theorem load_unbuilt {key : PyStr} {value : Json} {error : Raised}
    (failed : addressBookEntry value = .error error) :
    ∃ failure, load reader digests platform key value = .error failure ∧ failure.Skipped := by
  unfold load
  simp only [failed, bind, Except.bind, throw, throwThe, MonadExceptOf.throw]
  split
  · exact ⟨_, rfl, .inl rfl⟩
  · exact ⟨_, rfl, addressBookEntry_error failed⟩

/-- The checks of an entry that can be built, in their order. -/
theorem load_built {key : PyStr} {value : Json} {entry : StoredEntry}
    (built : addressBookEntry value = .ok entry) : load reader digests platform key value =
      if entry.deviceId = .str key then
        if entry.validIdentity digests = true then
          (checkStoredEndpoint reader platform entry.lastHostname entry.transferPort >>= fun _ =>
            entry.validateFriendlyName platform >>= fun _ => entry.validateResolvedIp >>= fun _ =>
              entry.validateConnection >>= fun _ => entry.validateError platform >>= fun _ =>
                .ok entry)
        else .error (raised .valueError "Invalid cryptographic identity")
      else .error (raised .valueError "record key does not match device ID") := by
  unfold load validateEntry
  simp only [built, addressBookEntry_dict built, bind, Except.bind, pure, Except.pure, throw,
    throwThe, MonadExceptOf.throw]
  by_cases named : entry.deviceId = .str key
  · cases identity : entry.validIdentity digests with
    | false => simp [named]
    | true =>
        simp only [named, Bool.true_eq_false, ↓reduceIte, ne_eq, not_true_eq_false]
        repeat' split
        all_goals simp_all
  · simp [named]

theorem checkStoredEndpoint_iff {host port : Json} :
    checkStoredEndpoint reader platform host port = .ok () ↔
      Reachable reader platform host port := by
  have checked := @endpointChecked reader platform host port
  generalize checkStoredEndpoint reader platform host port = outcome at checked
  cases checked with
  | passes reachable => simp [reachable]
  | overflows overflows =>
      simp only [reduceCtorEq, false_iff]
      intro reachable
      obtain ⟨_, _, _, _, read, _⟩ := reachable
      obtain ⟨_, _, _, _, rfl⟩ := overflows
      cases read
  | fails unreachable _ _ => simp [unreachable]

theorem checkStoredEndpoint_escapes {α : Type} {host port : Json} {next : Unit → Except Raised α}
    {error : Raised} (failed : (checkStoredEndpoint reader platform host port >>= next) = .error error)
    (escapes : ¬ error.Skipped) :
    PortOverflows host port ∨ Reachable reader platform host port ∧ next () = .error error := by
  have checked := @endpointChecked reader platform host port
  generalize checkStoredEndpoint reader platform host port = outcome at checked failed
  cases checked with
  | passes reachable => exact .inr ⟨reachable, failed⟩
  | overflows overflows => exact .inl overflows
  | fails _ _ skipped =>
      cases failed
      exact absurd skipped escapes

theorem checkStoredEndpoint_infinite {host port : Json} (overflows : PortOverflows host port) :
    checkStoredEndpoint reader platform host port = .error infinitePort := by
  obtain ⟨text, negative, rfl, read, rfl⟩ := overflows
  have raised : (portNumber reader (.float (.infinity negative)) >>= validatePort) =
      .error infinitePort := rfl
  rw [checkStoredEndpoint_read read, raised, asEndpointError_escapes infinitePort_escapes]
  rfl

theorem validateConnection_eq (entry : StoredEntry) : entry.validateConnection =
    if entry.lastSuccessfulConnection = .null then .ok ()
    else checkTimestamp "Invalid connection timestamp" entry.lastSuccessfulConnection := by
  unfold validateConnection
  cases entry.lastSuccessfulConnection <;> simp

theorem validateConnection_iff {entry : StoredEntry} : entry.validateConnection = .ok () ↔
    entry.lastSuccessfulConnection = .null ∨ IsTimestamp entry.lastSuccessfulConnection := by
  rw [validateConnection_eq]
  split
  · next absent => simp [absent]
  · next present => simp [present, checkTimestamp_iff]

theorem validateConnection_escapes {α : Type} {entry : StoredEntry} {next : Unit → Except Raised α}
    {error : Raised} (failed : (entry.validateConnection >>= next) = .error error)
    (escapes : ¬ error.Skipped) :
    IsHuge entry.lastSuccessfulConnection ∨ next () = .error error := by
  rw [validateConnection_eq] at failed
  split at failed
  · exact .inr failed
  · rcases checkTimestamp_escapes failed escapes with huge | ⟨_, continued⟩
    · exact .inl huge
    · exact .inr continued

theorem load_ok_iff {key : PyStr} {value : Json} {entry : StoredEntry} :
    load reader digests platform key value = .ok entry ↔
      addressBookEntry value = .ok entry ∧ Valid reader digests platform key entry := by
  constructor
  · intro loaded
    cases built : addressBookEntry value with
    | error error =>
        obtain ⟨failure, failed, _⟩ := @load_unbuilt reader digests platform key _ _ built
        rw [failed] at loaded
        cases loaded
    | ok other =>
        rw [load_built built] at loaded
        split at loaded
        · next named =>
            split at loaded
            · next identity =>
                obtain ⟨_, reached, loaded⟩ := except_bind_ok loaded
                obtain ⟨_, friendly, loaded⟩ := except_bind_ok loaded
                obtain ⟨_, resolved, loaded⟩ := except_bind_ok loaded
                obtain ⟨_, connected, loaded⟩ := except_bind_ok loaded
                obtain ⟨_, erred, loaded⟩ := except_bind_ok loaded
                cases loaded
                exact ⟨rfl, ⟨named, identity, checkStoredEndpoint_iff.mp reached,
                  validateFriendlyName_iff.mp friendly, validateResolvedIp_iff.mp resolved⟩,
                  validateConnection_iff.mp connected, validateError_iff.mp erred⟩
            · cases loaded
        · cases loaded
  · intro valid
    obtain ⟨built, valid⟩ := valid
    rw [load_built built, if_pos valid.deviceId, if_pos valid.identity,
      checkStoredEndpoint_iff.mpr valid.endpoint, validateFriendlyName_iff.mpr valid.friendlyName,
      validateResolvedIp_iff.mpr valid.resolvedIp, validateConnection_iff.mpr valid.connection,
      validateError_iff.mpr valid.error]
    rfl

theorem load_escapes_iff {key : PyStr} {value : Json} :
    (∃ error, load reader digests platform key value = .error error ∧ ¬ error.Skipped) ↔
      ∃ entry, addressBookEntry value = .ok entry ∧
        Overflows reader digests platform key entry := by
  constructor
  · intro escaped
    obtain ⟨error, failed, escapes⟩ := escaped
    cases built : addressBookEntry value with
    | error other =>
        obtain ⟨failure, same, skipped⟩ := @load_unbuilt reader digests platform key _ _ built
        rw [failed] at same
        cases same
        exact absurd skipped escapes
    | ok entry =>
        refine ⟨entry, rfl, ?_⟩
        obtain ⟨friendly, resolved, erred⟩ := @onlySkipped_fields platform entry
        rw [load_built built] at failed
        split at failed
        · next named =>
            split at failed
            · next identity =>
                rcases checkStoredEndpoint_escapes failed escapes with infinite | ⟨reached, failed⟩
                · exact .port named identity infinite
                · obtain ⟨_, shown, failed⟩ := friendly.continues failed escapes
                  obtain ⟨_, located, failed⟩ := resolved.continues failed escapes
                  rcases validateConnection_escapes failed escapes with huge | failed
                  · exact .connection ⟨named, identity, reached, validateFriendlyName_iff.mp shown,
                      validateResolvedIp_iff.mp located⟩ huge
                  · obtain ⟨_, _, ended⟩ := erred.continues failed escapes
                    cases ended
            · cases failed
              exact absurd (.inr rfl) escapes
        · cases failed
          exact absurd (.inr rfl) escapes
  · intro overflows
    obtain ⟨entry, built, overflows⟩ := overflows
    rw [load_built built]
    cases overflows with
    | port named identity infinite =>
        rw [if_pos named, if_pos identity, checkStoredEndpoint_infinite infinite]
        exact ⟨infinitePort, rfl, infinitePort_escapes⟩
    | connection described huge =>
        refine ⟨tooLarge, ?_, tooLarge_escapes⟩
        have present : entry.lastSuccessfulConnection ≠ .null := by
          intro absent
          rw [absent] at huge
          cases huge
        rw [if_pos described.deviceId, if_pos described.identity,
          checkStoredEndpoint_iff.mpr described.endpoint,
          validateFriendlyName_iff.mpr described.friendlyName,
          validateResolvedIp_iff.mpr described.resolvedIp, validateConnection_eq, if_neg present]
        exact checkTimestamp_huge huge

/-- An entry as `asdict` writes it. -/
def stored (entry : AddressBookEntry) : StoredEntry where
  deviceId := .str entry.deviceId
  friendlyName := .str entry.friendlyName
  fingerprint := .str entry.fingerprint
  publicKey := .str entry.publicKey
  lastHostname := .str entry.lastHostname
  lastResolvedIp := (entry.lastResolvedIp.map Json.str).getD .null
  transferPort := .int entry.transferPort
  lastSuccessfulConnection :=
    (entry.lastSuccessfulConnection.map fun time => .float (.finite time)).getD .null
  lastConnectionError := (entry.lastConnectionError.map Json.str).getD .null

theorem validIdentity_stored (entry : AddressBookEntry) :
    (stored entry).validIdentity digests = AddressBook.validIdentity digests entry := by
  unfold validIdentity AddressBook.validIdentity
  cases derived : deviceIdFromPublicKey digests entry.publicKey with
  | error error => simp [stored, derived]
  | ok deviceId =>
      cases marked : fingerprintFromPublicKey digests entry.publicKey with
      | error error => simp [stored, derived, marked]
      | ok fingerprint => simp [stored, derived, marked]

/-- On the entries the book itself writes the checks are those of the book. -/
theorem valid_stored_iff {entry : AddressBookEntry} :
    Valid reader digests platform entry.deviceId (stored entry) ↔
      AddressBook.validateEntry digests platform entry = .ok () := by
  have endpoint : Reachable reader platform (stored entry).lastHostname (stored entry).transferPort ↔
      ∃ endpoint, entry.endpoint platform = .ok endpoint := by
    constructor
    · intro reachable
      obtain ⟨text, number, checked, shown, read, passed⟩ := reachable
      obtain rfl : entry.lastHostname = text := Json.str.inj shown
      obtain rfl : (entry.transferPort : Int) = number := Except.ok.inj read
      refine ⟨⟨entry.lastHostname, entry.transferPort, ?_⟩, Endpoint.make_self ⟨_, _, _⟩⟩
      have same : checked = entry.transferPort := Int.ofNat.inj (checkEndpoint_ok passed).1
      exact passed.trans (congrArg Except.ok same)
    · intro made
      obtain ⟨endpoint, made⟩ := made
      unfold AddressBookEntry.endpoint Endpoint.make at made
      split at made
      · cases made
      · next number passed => exact ⟨_, _, number, rfl, rfl, passed⟩
  rw [AddressBook.validateEntry_iff]
  constructor
  · intro valid
    refine ⟨validIdentity_stored entry ▸ valid.identity, endpoint.mp valid.endpoint, ?_, ?_, ?_, ?_⟩
    · obtain ⟨name, shown, friendly⟩ := valid.friendlyName
      obtain rfl : entry.friendlyName = name := Json.str.inj shown
      exact friendly
    · intro ip known
      have resolved := valid.resolvedIp
      simpa [stored, known] using resolved
    · intro time known
      have connection := valid.connection
      simp only [stored, known, Option.map_some, Option.getD_some, reduceCtorEq, false_or]
        at connection
      cases connection with
      | float later => exact later
    · intro error known
      have erred := valid.error
      simpa [stored, known] using erred
  · intro valid
    obtain ⟨identity, reachable, friendly, resolved, connection, erred⟩ := valid
    refine ⟨⟨rfl, (validIdentity_stored entry).trans identity, endpoint.mpr reachable,
      ⟨_, rfl, friendly⟩, ?_⟩, ?_, ?_⟩
    · cases known : entry.lastResolvedIp with
      | none => simp [stored, known]
      | some ip => simp [stored, known, resolved ip known]
    · cases known : entry.lastSuccessfulConnection with
      | none => simp [stored, known]
      | some time =>
          right
          simp only [stored, known, Option.map_some, Option.getD_some]
          exact .float (connection time known)
    · cases known : entry.lastConnectionError with
      | none => simp [stored, known]
      | some error =>
          have checked := erred error known
          simp only [stored, known, Option.map_some, Option.getD_some, reduceCtorEq, Json.str.injEq,
            exists_eq_left', false_or]
          exact checked

end StoredEntry

/-! ## Startup -/

/-- The store opens with exactly the valid records of its file, each under its key. -/
def Keeps {α : Type} (reader : FileReader) (file : StoredFile)
    (opened : Except Raised (Dict PyStr α)) (build : Json → Except Raised α)
    (valid : PyStr → α → Prop) : Prop :=
  ∃ records, opened = .ok records ∧ ∀ key record, records.get key = some record ↔
    ∃ value, (key, value) ∈ recordsIn reader file ∧ build value = .ok record ∧ valid key record

/-- None of the records of a file is one that overflows. -/
def NoneOverflows {α : Type} (reader : FileReader) (file : StoredFile)
    (build : Json → Except Raised α) (overflows : PyStr → α → Prop) : Prop :=
  ∀ key value record, (key, value) ∈ recordsIn reader file → build value = .ok record →
    ¬ overflows key record

theorem keeps_iff {α : Type} {reader : FileReader} {file : StoredFile}
    {convert : PyStr → Json → Except Raised α} {build : Json → Except Raised α}
    {valid overflows : PyStr → α → Prop}
    (accepts : ∀ key value record, convert key value = .ok record ↔
      build value = .ok record ∧ valid key record)
    (escapes : ∀ key value, (∃ error, convert key value = .error error ∧ ¬ error.Skipped) ↔
      ∃ record, build value = .ok record ∧ overflows key record) :
    Keeps reader file (loadFile reader convert file) build valid ↔
      Legible reader file ∧ NoneOverflows reader file build overflows := by
  have loaded : Keeps reader file (loadFile reader convert file) build valid ↔
      ∃ records, loadFile reader convert file = .ok records := by
    constructor
    · intro kept
      obtain ⟨records, opened, _⟩ := kept
      exact ⟨records, opened⟩
    · intro opens
      obtain ⟨records, opened⟩ := opens
      refine ⟨records, opened, fun key record => ?_⟩
      simp only [loadFile_get opened, accepts]
  rw [loaded, loadFile_ends_iff]
  refine and_congr_right fun _ => ?_
  constructor
  · intro skips key value record member built overflowing
    obtain ⟨error, failed, escaped⟩ := (escapes key value).mpr ⟨record, built, overflowing⟩
    exact escaped (skips key value member error failed)
  · intro none key value member error failed
    by_contra escaped
    obtain ⟨record, built, overflowing⟩ := (escapes key value).mp ⟨error, failed, escaped⟩
    exact none key value record member built overflowing

/-- Both stores open with exactly their valid records if and only if both files
are UTF-8 and either JSON or malformed as JSON, no device record passes every
other check with a time beyond the floats, and no entry does so or has an
infinite port. -/
theorem startup_keeps_iff (reader : FileReader) (digests : Digests) (platform : Platform)
    (trustFile bookFile : StoredFile) :
    (Keeps reader trustFile (loadTrustStore reader digests platform trustFile) trustedDevice
        (StoredDevice.Valid digests platform) ∧
      Keeps reader bookFile (loadAddressBook reader digests platform bookFile) addressBookEntry
        (StoredEntry.Valid reader digests platform)) ↔
      (Legible reader trustFile ∧
        NoneOverflows reader trustFile trustedDevice (StoredDevice.Overflows digests platform)) ∧
      (Legible reader bookFile ∧
        NoneOverflows reader bookFile addressBookEntry
          (StoredEntry.Overflows reader digests platform)) := by
  unfold loadTrustStore loadAddressBook
  apply and_congr
  · exact keeps_iff (fun _ _ _ => StoredDevice.load_ok_iff)
      (fun _ _ => StoredDevice.load_escapes_iff)
  · exact keeps_iff (fun _ _ _ => StoredEntry.load_ok_iff) (fun _ _ => StoredEntry.load_escapes_iff)

/-- A reader of ASCII files that finds the given payload in every text. -/
def singleReader (payload : Json) (formed : payload.WellFormed) : FileReader where
  utf8 octets :=
    if octets.all fun octet => octet < 0x80 then
      some (octets.map fun octet => codePoint octet.toNat)
    else none
  parse _ := .ok payload
  intOf _ := none
  formed _ _ parsed := by
    cases parsed
    exact formed
  failures _ _ parsed := by cases parsed

theorem singleReader_read {payload : Json} {formed : payload.WellFormed} {octets : Bytes}
    (ascii : (octets.all fun octet => octet < 0x80) = true) :
    (singleReader payload formed).read octets = .ok payload := by
  simp only [FileReader.read, singleReader, ascii, ↓reduceIte]

/-- `firstEntry` as it is written, but for its port. -/
def unreachableRecord : Json :=
  .obj [(py "device_id", .str AddressBook.firstEntry.deviceId),
    (py "fingerprint", .str AddressBook.firstEntry.fingerprint),
    (py "friendly_name", .str AddressBook.firstEntry.friendlyName),
    (py "last_hostname", .str AddressBook.firstEntry.lastHostname),
    (py "last_resolved_ip", .null), (py "public_key", .str AddressBook.firstEntry.publicKey),
    (py "transfer_port", .float (.infinity false))]

def unreachableBook : Json :=
  .obj [(py "devices", .obj [(AddressBook.firstEntry.deviceId, unreachableRecord)])]

theorem unreachableBook_formed : unreachableBook.WellFormed := by
  have key : PairFree AddressBook.firstEntry.publicKey := (b64encode_plain _).pairFree
  have texts : PairFree AddressBook.firstEntry.deviceId ∧
      PairFree AddressBook.firstEntry.fingerprint ∧ PairFree AddressBook.firstEntry.friendlyName ∧
      PairFree AddressBook.firstEntry.lastHostname :=
    ⟨pairFree_py _, pairFree_py _, pairFree_py _, pairFree_py _⟩
  simp [unreachableBook, unreachableRecord, Json.WellFormed, Json.WellFormedFields, key, texts]

def unreachableEntry : StoredEntry :=
  { StoredEntry.stored AddressBook.firstEntry with transferPort := .float (.infinity false) }

theorem unreachableRecord_built : addressBookEntry unreachableRecord = .ok unreachableEntry := by
  rfl

/-- An octet that is not UTF-8 keeps the trust store from opening, and an
infinite port the address book. -/
theorem startup_stopped :
    loadTrustStore (singleReader unreachableBook unreachableBook_formed) plainCrypto.toDigests
        asciiPlatform (.content [0xFF]) =
      .error (raised .unicodeDecodeError "invalid start byte") ∧
    loadAddressBook (singleReader unreachableBook unreachableBook_formed) plainCrypto.toDigests
        asciiPlatform (.content (encodeAscii (unreachableBook.dumps quotientFloats))) =
      .error (raised .overflowError "cannot convert float infinity to integer") := by
  constructor
  · rfl
  · have octets : ((encodeAscii (unreachableBook.dumps quotientFloats)).all fun octet =>
        octet < 0x80) = true := by
      rw [List.all_eq_true]
      intro octet member
      obtain ⟨point, inside, rfl⟩ := List.mem_map.mp member
      have small := Json.ascii_dumps quotientFloats unreachableBook point inside
      rw [decide_eq_true_eq, UInt8.lt_iff_toNat_lt,
        UInt8.toNat_ofNat_of_lt' (by simp [UInt8.size]; omega)]
      exact small
    have identity : unreachableEntry.validIdentity plainCrypto.toDigests = true := by
      show (StoredEntry.stored AddressBook.firstEntry).validIdentity plainCrypto.toDigests = true
      rw [StoredEntry.validIdentity_stored]
      exact ((AddressBook.validateEntry_iff _).mp AddressBook.firstEntry_valid).1
    have overflows : StoredEntry.PortOverflows unreachableEntry.lastHostname
        unreachableEntry.transferPort :=
      ⟨_, false, rfl, ⟨by decide, by decide, by decide, by decide⟩, rfl⟩
    have failed : StoredEntry.load (singleReader unreachableBook unreachableBook_formed)
        plainCrypto.toDigests asciiPlatform AddressBook.firstEntry.deviceId unreachableRecord =
        .error StoredEntry.infinitePort := by
      rw [StoredEntry.load_built unreachableRecord_built, if_pos (by rfl), if_pos identity,
        StoredEntry.checkStoredEndpoint_infinite overflows]
      rfl
    have read : (singleReader unreachableBook unreachableBook_formed).read
        (encodeAscii (unreachableBook.dumps quotientFloats)) = .ok unreachableBook :=
      singleReader_read octets
    have taken : devicesOf unreachableBook =
        .ok [(AddressBook.firstEntry.deviceId, unreachableRecord)] := by
      rfl
    unfold loadAddressBook loadFile
    simp only [read, taken, bind, Except.bind, loadRecords, failed]
    rfl

end DirectTransfer
