import DirectTransfer.Core.Endpoint
import DirectTransfer.Core.ProtocolProperties

/-! Endpoints as text: which endpoints are read back from what they print, and
which texts are read. -/

set_option autoImplicit false

namespace DirectTransfer

open Library

/-! ## Splitting at a separator -/

theorem splitOn_length (separator : CodePoint) (text : PyStr) :
    (text.splitOn separator).length = text.count separator + 1 := by
  induction text with
  | nil => rfl
  | cons point rest ih =>
      rw [List.splitOn_cons_eq_if_modifyHead, List.count_cons]
      by_cases same : (point == separator) = true
      · rw [if_pos same, if_pos same, List.length_cons, ih]
      · rw [if_neg same, if_neg same, List.length_modifyHead, ih, Nat.add_zero]

/-- What holds of the characters of all parts holds of all others than the separator. -/
theorem forall_of_parts {separator : CodePoint} {holds : CodePoint → Prop} {text : PyStr}
    (parts : ∀ part ∈ text.splitOn separator, ∀ point ∈ part, holds point) :
    ∀ point ∈ text, point = separator ∨ holds point := by
  induction text with
  | nil => exact fun point member => nomatch member
  | cons first rest ih =>
      rw [List.splitOn_cons_eq_if_modifyHead] at parts
      by_cases same : (first == separator) = true
      · rw [if_pos same] at parts
        have later := ih fun part member => parts part (List.mem_cons_of_mem _ member)
        intro point member
        rcases List.mem_cons.mp member with rfl | member
        · exact .inl (beq_iff_eq.mp same)
        · exact later point member
      · rw [if_neg same] at parts
        obtain ⟨head, tail, split⟩ := List.exists_cons_of_ne_nil (List.splitOn_ne_nil separator rest)
        rw [split, List.modifyHead_cons] at parts
        rw [split] at ih
        have later := ih fun part member => by
          rcases List.mem_cons.mp member with rfl | member
          · intro point inside
            exact parts _ List.mem_cons_self point (List.mem_cons_of_mem _ inside)
          · exact parts part (List.mem_cons_of_mem _ member)
        intro point member
        rcases List.mem_cons.mp member with rfl | member
        · exact .inr (parts _ List.mem_cons_self _ List.mem_cons_self)
        · exact later point member

/-- Whitespace-free text is its own `strip()`. -/
theorem strip_eq_self {text : PyStr} (solid : ∀ point ∈ text, point.isSpace = false) :
    strip text = text := by
  have front (text : PyStr) (solid : ∀ point ∈ text, point.isSpace = false) :
      text.dropWhile CodePoint.isSpace = text := by
    cases text with
    | nil => rfl
    | cons first rest =>
        rw [List.dropWhile_cons_of_neg]
        simp [solid first List.mem_cons_self]
  rw [strip, rstrip, front text solid, front _ fun point member =>
    solid point (List.mem_reverse.mp member), List.reverse_reverse]

/-! ## Numbers -/

theorem decimalValue_append (text : PyStr) (digit : CodePoint) :
    decimalValue (text ++ [digit]) = decimalValue text * 10 + (digit.val - 0x30) := by
  rw [decimalValue, List.foldl_append]
  rfl

/-- A number is read back from its text. -/
theorem decimalValue_natText (value : Nat) : decimalValue (natText value) = value := by
  have digits (list : List Nat) (small : ∀ digit ∈ list, digit < 10) :
      decimalValue (list.reverse.map digitChar) = Nat.ofDigits 10 list := by
    induction list with
    | nil => rfl
    | cons digit list ih =>
        have bound := small digit List.mem_cons_self
        rw [List.reverse_cons, List.map_append, List.map_singleton, decimalValue_append,
          ih fun other member => small other (List.mem_cons_of_mem _ member), Nat.ofDigits_cons,
          digitChar, codePoint_val (by omega), Nat.add_sub_cancel_left]
        omega
  unfold natText
  by_cases zero : value = 0
  · rw [if_pos zero, zero]
    rfl
  · rw [if_neg zero, digits _ fun digit member => Nat.digits_lt_base (by decide) member,
      Nat.ofDigits_digits]

theorem isAsciiDigit_natText {value : Nat} {point : CodePoint} (member : point ∈ natText value) :
    point.isAsciiDigit = true := by
  have digit : ∀ point ∈ py "0123456789", point.isAsciiDigit = true := forall_of_all (by decide)
  exact digit point (natText_mem member)

/-! ## Addresses -/

theorem isIpv4_characters {text : PyStr} (numeric : isIpv4 text = true) :
    ∀ point ∈ text, point = chr '.' ∨ point.isAsciiDigit = true := by
  apply forall_of_parts
  intro part member
  simp only [isIpv4, Bool.and_eq_true] at numeric
  have octet := List.all_eq_true.mp numeric.2 part member
  simp only [isIpv4Octet, Bool.and_eq_true] at octet
  exact List.all_eq_true.mp octet.1.1.1.2

/-- The part of an address before its scope, and what follows the percent sign. -/
theorem isIpv6_body {text : PyStr} (numeric : isIpv6 text = true) :
    ∃ body scope, text = body ++ scope ∧ isIpv6Body body = true := by
  unfold isIpv6 at numeric
  split at numeric
  · cases numeric
  · by_cases zoned : chr '%' ∈ text
    · obtain ⟨first, rest, split, none⟩ := List.eq_append_cons_of_mem zoned
      rw [split, List.splitOn_append_cons_self_of_not_mem none] at numeric
      refine ⟨first, _, split, ?_⟩
      obtain ⟨head, tail, parts⟩ := List.exists_cons_of_ne_nil (List.splitOn_ne_nil (chr '%') rest)
      rw [parts] at numeric
      cases tail with
      | nil =>
          simp only [Bool.and_eq_true] at numeric
          exact numeric.2
      | cons => cases numeric
    · rw [List.splitOn_eq_singleton zoned] at numeric
      exact ⟨text, [], (List.append_nil _).symm, numeric⟩

/-- An IPv6 address holds at least two colons. -/
theorem isIpv6_colons {text : PyStr} (numeric : isIpv6 text = true) :
    2 ≤ text.count (chr ':') := by
  obtain ⟨body, scope, rfl, valid⟩ := isIpv6_body numeric
  unfold isIpv6Body at valid
  split at valid
  · cases valid
  · next long =>
      rw [not_or, splitOn_length] at long
      rw [List.count_append]
      omega

theorem ipVersion_six {text : PyStr} :
    ipVersion text = some 6 ↔ isIpv4 text = false ∧ isIpv6 text = true := by
  unfold ipVersion
  cases isIpv4 text with
  | true => simp
  | false => cases isIpv6 text with
    | true => simp
    | false => simp

/-- A version is 6 when there is a colon, and 4 otherwise. -/
theorem ipVersion_colon {text : PyStr} (numeric : (ipVersion text).isSome = true) :
    ipVersion text = some 6 ↔ chr ':' ∈ text := by
  have colon : (chr ':').isAsciiDigit = false := by decide
  rw [ipVersion_six]
  constructor
  · intro six
    apply List.count_pos_iff.mp
    have := isIpv6_colons six.2
    omega
  · intro member
    have not4 : isIpv4 text = false := by
      cases four : isIpv4 text with
      | false => rfl
      | true =>
          rcases isIpv4_characters four _ member with dot | digit
          · exact absurd dot (by decide)
          · rw [colon] at digit
            cases digit
    rw [ipVersion, not4] at numeric
    refine ⟨not4, ?_⟩
    cases six : isIpv6 text with
    | true => rfl
    | false =>
        rw [six] at numeric
        cases numeric

/-! ## Hosts -/

section

variable {platform : Platform} {host : PyStr}

/-- The characters of names and of IPv4 addresses. -/
def isNameCharacter (point : CodePoint) : Bool :=
  isAlphanumeric point || point = chr '_' || point = chr '-' || point = chr '.'

theorem isHostLabel_characters {label : PyStr} (valid : isHostLabel label = true) :
    ∀ point ∈ label, isNameCharacter point = true := by
  intro point member
  simp only [isHostLabel, Bool.and_eq_true] at valid
  have letter := List.all_eq_true.mp valid.2 point member
  simp only [isNameCharacter, Bool.or_eq_true]
  exact .inl (by simpa only [Bool.or_eq_true, or_assoc] using letter)

/-- A valid host that is no address is made of labels. -/
theorem validateHost_name (valid : validateHost platform host = .ok ())
    (named : (ipVersion host).isSome = false) :
    chr ':' ∉ host ∧ ∀ point ∈ host, isNameCharacter point = true := by
  have dot : isNameCharacter (chr '.') = true := by decide
  have characters {candidate : PyStr} (labels : (candidate.splitOn (chr '.')).all isHostLabel = true)
      (point : CodePoint) (member : point ∈ candidate) : isNameCharacter point = true := by
    rcases forall_of_parts (fun part inside =>
      isHostLabel_characters (List.all_eq_true.mp labels part inside)) point member with rfl | name
    · exact dot
    · exact name
  unfold validateHost at valid
  simp only [named, Bool.false_eq_true, ↓reduceIte] at valid
  split at valid
  · cases valid
  · split at valid
    · cases valid
    · next noColon =>
        refine ⟨by simpa using noColon, ?_⟩
        by_cases final : host.getLast? = some (chr '.')
        · simp only [final, ↓reduceIte] at valid
          split at valid
          · cases valid
          · next labels =>
              rw [not_or, Bool.not_eq_false] at labels
              intro point member
              rw [← List.dropLast_append_getLast? _ final] at member
              rcases List.mem_append.mp member with inside | last
              · exact characters labels.2 point inside
              · rw [List.mem_singleton.mp last]
                exact dot
        · simp only [final, ↓reduceIte] at valid
          split at valid
          · cases valid
          · next labels =>
              rw [not_or, Bool.not_eq_false] at labels
              exact characters labels.2

/-- A valid host with a colon is an IPv6 address, one without is written in name characters. -/
theorem validateHost_ok (valid : validateHost platform host = .ok ()) :
    (chr ':' ∈ host ∧ ipVersion host = some 6) ∨
      (chr ':' ∉ host ∧ ipVersion host ≠ some 6 ∧ ∀ point ∈ host, isNameCharacter point = true) := by
  by_cases numeric : (ipVersion host).isSome = true
  · by_cases colon : chr ':' ∈ host
    · exact .inl ⟨colon, (ipVersion_colon numeric).mpr colon⟩
    · have not6 : ipVersion host ≠ some 6 := fun six => colon ((ipVersion_colon numeric).mp six)
      refine .inr ⟨colon, not6, ?_⟩
      have four : isIpv4 host = true := by
        unfold ipVersion at numeric not6
        cases four : isIpv4 host with
        | true => rfl
        | false =>
            rw [four] at numeric not6
            cases six : isIpv6 host with
            | true => rw [six] at not6; exact (not6 rfl).elim
            | false => rw [six] at numeric; cases numeric
      intro point member
      rcases isIpv4_characters four point member with rfl | digit
      · decide
      · simp only [isNameCharacter, isAlphanumeric, digit, Bool.true_or]
  · have named : (ipVersion host).isSome = false := by simpa using numeric
    obtain ⟨colon, characters⟩ := validateHost_name valid named
    refine .inr ⟨colon, ?_, characters⟩
    intro six
    rw [six] at named
    cases named

end

/-! ## Checks -/

/-- A text without whitespace. -/
def Solid (text : PyStr) : Prop := ∀ point ∈ text, point.isSpace = false

theorem solid_iff {text : PyStr} :
    ¬ (text ≠ strip text ∨ text.any CodePoint.isSpace = true) ↔ Solid text := by
  have spaces : ¬ text.any CodePoint.isSpace = true ↔ Solid text := by
    simp [Solid]
  rw [not_or, spaces]
  constructor
  · intro both
    exact both.2
  · intro solid
    exact ⟨not_not.mpr (strip_eq_self solid).symm, solid⟩

theorem solid_append {left right : PyStr} :
    Solid (left ++ right) ↔ Solid left ∧ Solid right := List.forall_mem_append

theorem solid_cons {first : CodePoint} {rest : PyStr} :
    Solid (first :: rest) ↔ first.isSpace = false ∧ Solid rest := List.forall_mem_cons

theorem solid_digits {digits : PyStr} (ascii : digits.all CodePoint.isAsciiDigit = true) :
    Solid digits := by
  intro point member
  have digit := List.all_eq_true.mp ascii point member
  simp only [CodePoint.isAsciiDigit, Bool.and_eq_true, decide_eq_true_eq] at digit
  simp only [CodePoint.isSpace, Bool.or_eq_false_iff, Bool.and_eq_false_iff,
    decide_eq_false_iff_not]
  omega

theorem validatePort_error {port : Int} {error : Raised}
    (failed : validatePort port = .error error) : error.kind = .valueError := by
  unfold validatePort at failed
  split at failed
  · cases failed
  · cases failed
    rfl

theorem validateHost_error {platform : Platform} {host : PyStr} {error : Raised}
    (failed : validateHost platform host = .error error) : error.kind = .endpointError := by
  unfold validateHost at failed
  simp only at failed
  repeat' split at failed
  all_goals cases failed
  all_goals rfl

/-- What a constructor checks of a host. -/
structure HostAccepted (platform : Platform) (host : PyStr) : Prop where
  nonempty : host ≠ []
  solid : Solid host
  short : host.length ≤ 253
  valid : validateHost platform host = .ok ()

section

variable {platform : Platform} {host : PyStr}

theorem validatePort_ok_iff {port : Int} {number : Nat} :
    validatePort port = .ok number ↔ (number : Int) = port ∧ 1 ≤ number ∧ number ≤ 65535 := by
  unfold validatePort
  by_cases bounded : 1 ≤ port ∧ port ≤ 65535
  · rw [if_pos bounded, Except.ok.injEq]
    omega
  · rw [if_neg bounded]
    constructor
    · intro failed
      cases failed
    · intro same
      omega

theorem checkEndpoint_iff {port : Int} {number : Nat} :
    checkEndpoint platform host port = .ok number ↔
      HostAccepted platform host ∧ (number : Int) = port ∧ 1 ≤ number ∧ number ≤ 65535 := by
  rw [← validatePort_ok_iff]
  unfold checkEndpoint
  simp only [bind, Except.bind, pure, Except.pure, throw, throwThe, MonadExceptOf.throw]
  constructor
  · intro checked
    split at checked
    · cases checked
    · next nonempty =>
      split at checked
      · cases checked
      · next solid =>
        split at checked
        · cases checked
        · next short =>
          split at checked
          · cases checked
          · next validated =>
            split at checked
            · cases checked
            · next valid =>
              cases checked
              exact ⟨⟨nonempty, solid_iff.mp solid, Nat.not_lt.mp short, valid⟩,
                asEndpointError_ok_iff.mp validated⟩
  · intro both
    obtain ⟨accepted, validated⟩ := both
    rw [if_neg accepted.nonempty, if_neg (solid_iff.mpr accepted.solid),
      if_neg (Nat.not_lt.mpr accepted.short), asEndpointError_ok_iff.mpr validated]
    simp only [accepted.valid]

end

theorem checkEndpoint_error {platform : Platform} {host : PyStr} {port : Int} {error : Raised}
    (failed : checkEndpoint platform host port = .error error) : error.kind = .endpointError := by
  unfold checkEndpoint at failed
  simp only [bind, Except.bind, pure, Except.pure, throw, throwThe, MonadExceptOf.throw] at failed
  repeat' split at failed
  all_goals cases failed
  all_goals first
    | rfl
    | next raised =>
      exact asEndpointError_error (fun first refused => .inr (validatePort_error refused ▸ rfl)) raised
    | next raised => exact validateHost_error raised

namespace Endpoint

variable {platform : Platform}

theorem make_error {host : PyStr} {port : Int} {error : Raised}
    (failed : make platform host port = .error error) : error.kind = .endpointError := by
  unfold make at failed
  split at failed
  · next checked =>
    cases failed
    exact checkEndpoint_error checked
  · cases failed

theorem intOfDigits_error {digits : PyStr} {error : Raised}
    (failed : intOfDigits digits = .error error) : error.kind = .valueError := by
  unfold intOfDigits at failed
  split at failed
  · cases failed
    rfl
  · cases failed

theorem parsePort_error {digits : PyStr} {error : Raised}
    (failed : parsePort digits = .error error) : error.kind = .endpointError := by
  unfold parsePort at failed
  split at failed
  · cases failed
    rfl
  · refine asEndpointError_error ?_ failed
    intro first refused
    cases read : intOfDigits digits with
    | ok number =>
        rw [read] at refused
        exact .inr (validatePort_error refused ▸ rfl)
    | error other =>
        rw [read] at refused
        cases refused
        exact .inr (intOfDigits_error read ▸ rfl)

/-- Every refused text is refused with an endpoint error. -/
theorem parse_error {value : PyStr} {defaultPort : Nat} {error : Raised}
    (failed : parse platform value defaultPort = .error error) : error.kind = .endpointError := by
  unfold parse at failed
  simp only [bind, Except.bind, throw, throwThe, MonadExceptOf.throw] at failed
  repeat' split at failed
  all_goals first
    | exact make_error failed
    | cases failed
  all_goals first
    | rfl
    | next raised => exact parsePort_error raised

theorem accepted (endpoint : Endpoint platform) : HostAccepted platform endpoint.host :=
  (checkEndpoint_iff.mp endpoint.valid).1

theorem port_bounds (endpoint : Endpoint platform) : 1 ≤ endpoint.port ∧ endpoint.port ≤ 65535 :=
  (checkEndpoint_iff.mp endpoint.valid).2.2

/-- The constructor makes the endpoint with its arguments, if there is one. -/
theorem make_ok_iff {host : PyStr} {port : Nat} {endpoint : Endpoint platform} :
    make platform host port = .ok endpoint ↔ endpoint.host = host ∧ endpoint.port = port := by
  constructor
  · intro made
    unfold make at made
    split at made
    · cases made
    · next number checked =>
        cases made
        exact ⟨rfl, by exact_mod_cast (checkEndpoint_iff.mp checked).2.1⟩
  · intro same
    rw [← same.1, ← same.2, make_self]

theorem exists_endpoint {host : PyStr} {port : Nat} (accepted : HostAccepted platform host)
    (bounds : 1 ≤ port ∧ port ≤ 65535) :
    ∃ endpoint : Endpoint platform, endpoint.host = host ∧ endpoint.port = port :=
  ⟨⟨host, port, checkEndpoint_iff.mpr ⟨accepted, rfl, bounds⟩⟩, rfl, rfl⟩

/-- The text of a decimal port. -/
structure PortText (digits : PyStr) (port : Nat) : Prop where
  nonempty : digits ≠ []
  ascii : digits.all CodePoint.isAsciiDigit = true
  value : decimalValue digits = port
  bounds : 1 ≤ port ∧ port ≤ 65535

theorem parsePort_ok_iff {digits : PyStr} {port : Nat} :
    parsePort digits = .ok port ↔ PortText digits port ∧ digits.length ≤ maxStrDigits := by
  unfold parsePort
  by_cases number : digits = [] ∨ digits.all CodePoint.isAsciiDigit = false
  · rw [if_pos number]
    constructor
    · intro failed
      cases failed
    · intro both
      rcases number with empty | other
      · exact (both.1.nonempty empty).elim
      · rw [both.1.ascii] at other
        cases other
  · rw [if_neg number]
    rw [not_or, Bool.not_eq_false] at number
    rw [asEndpointError_ok_iff]
    unfold intOfDigits
    by_cases long : maxStrDigits < digits.length
    · rw [if_pos long]
      constructor
      · intro failed
        cases failed
      · intro both
        exact absurd long (Nat.not_lt.mpr both.2)
    · rw [if_neg long]
      refine validatePort_ok_iff.trans ?_
      constructor
      · intro validated
        exact ⟨⟨number.1, number.2, by omega, validated.2⟩, Nat.not_lt.mp long⟩
      · intro both
        exact ⟨by rw [both.1.value], both.1.bounds⟩

/-! ## Reading -/

/-- The branch of `parse` for a text in brackets. -/
theorem parse_bracketed {first rest : PyStr} (inside : chr ']' ∉ first)
    (solid : Solid (chr '[' :: (first ++ chr ']' :: rest))) (defaultPort : Nat) :
    parse platform (chr '[' :: (first ++ chr ']' :: rest)) defaultPort =
      if first = [] ∨ rest.head? ≠ some (chr ':') ∨ rest.length = 1 ∨
          (rest.drop 1).contains (chr ':') then
        .error (endpointError "Invalid IPv6 endpoint")
      else if ipVersion first ≠ some 6 then .error (endpointError "Malformed IPv6 address")
      else match parsePort (rest.drop 1) with
        | .error error => .error error
        | .ok port => make platform first port := by
  have closes : (chr '[' :: (first ++ chr ']' :: rest)).contains (chr ']') = true := by simp
  have host : (first ++ chr ']' :: rest).takeWhile (fun point => point ≠ chr ']') = first := by
    rw [List.takeWhile_append_of_pos fun point member => by
      simp only [ne_eq, decide_eq_true_eq]
      rintro rfl
      exact inside member]
    simp
  have left : (chr '[' :: (first ++ chr ']' :: rest)).drop (first.length + 2) = rest := by
    rw [List.drop_succ_cons, List.drop_append, List.drop_of_length_le (by omega)]
    simp
  rw [parse, if_neg (List.cons_ne_nil _ _)]
  simp only [bind, Except.bind, throw, throwThe, MonadExceptOf.throw, solid_iff.mpr solid,
    ↓reduceIte, List.head?_cons, closes, Bool.true_eq_false]
  rw [List.drop_succ_cons, List.drop_zero, host, left]
  cases parsePort (rest.drop 1) with
  | error => rfl
  | ok => rfl

/-- The branches of `parse` for a text without brackets. -/
theorem parse_unbracketed {value : PyStr} (nonempty : value ≠ []) (solid : Solid value)
    (opens : chr '[' ∉ value) (closes : chr ']' ∉ value) (defaultPort : Nat) :
    parse platform value defaultPort = match value.splitOn (chr ':') with
      | [_] => make platform value defaultPort
      | [host, port] => do make platform host (← parsePort port)
      | _ => match ipVersion value with
        | none => throw (endpointError "Malformed IPv6 address")
        | some version =>
            if version ≠ 6 then throw (endpointError "Malformed address")
            else make platform value defaultPort := by
  have head : value.head? ≠ some (chr '[') := by
    intro first
    exact opens (List.mem_of_mem_head? first)
  have brackets : ¬ (value.contains (chr '[') = true ∨ value.contains (chr ']') = true) := by
    simp [opens, closes]
  unfold parse
  refine (if_neg nonempty).trans ?_
  refine (if_neg (solid_iff.mpr solid)).trans ?_
  refine (if_neg head).trans ?_
  exact if_neg brackets

section

variable {value host digits : PyStr} {defaultPort : Nat}

theorem parse_plain (nonempty : value ≠ []) (solid : Solid value) (opens : chr '[' ∉ value)
    (closes : chr ']' ∉ value) (colon : chr ':' ∉ value) :
    parse platform value defaultPort = make platform value defaultPort := by
  rw [parse_unbracketed nonempty solid opens closes, List.splitOn_eq_singleton colon]

theorem parse_ported (solid : Solid (host ++ chr ':' :: digits))
    (opens : chr '[' ∉ host ++ chr ':' :: digits) (closes : chr ']' ∉ host ++ chr ':' :: digits)
    (before : chr ':' ∉ host) (after : chr ':' ∉ digits) :
    parse platform (host ++ chr ':' :: digits) defaultPort = match parsePort digits with
      | .error error => .error error
      | .ok port => make platform host port := by
  rw [parse_unbracketed (by simp) solid opens closes,
    List.splitOn_append_cons_self_of_not_mem before, List.splitOn_eq_singleton after]
  simp only [bind, Except.bind]
  cases parsePort digits with
  | error => rfl
  | ok => rfl

theorem parse_colons (nonempty : value ≠ []) (solid : Solid value) (opens : chr '[' ∉ value)
    (closes : chr ']' ∉ value) (colons : 2 ≤ value.count (chr ':')) :
    parse platform value defaultPort = match ipVersion value with
      | none => .error (endpointError "Malformed IPv6 address")
      | some version =>
          if version ≠ 6 then .error (endpointError "Malformed address")
          else make platform value defaultPort := by
  have parts := splitOn_length (chr ':') value
  rw [parse_unbracketed nonempty solid opens closes]
  match split : value.splitOn (chr ':') with
  | first :: second :: third :: rest => rfl
  | [] | [_] | [_, _] =>
      rw [split] at parts
      simp only [List.length_cons, List.length_nil] at parts
      omega

end

/-- A text that is read is not empty, holds no whitespace and is in brackets or holds none. -/
theorem parse_ok_shape {value : PyStr} {defaultPort : Nat} {endpoint : Endpoint platform}
    (parsed : parse platform value defaultPort = .ok endpoint) :
    value ≠ [] ∧ Solid value ∧
      ((∃ first rest, value = chr '[' :: (first ++ chr ']' :: rest) ∧ chr ']' ∉ first) ∨
        (chr '[' ∉ value ∧ chr ']' ∉ value)) := by
  unfold parse at parsed
  simp only [bind, Except.bind, throw, throwThe, MonadExceptOf.throw] at parsed
  split at parsed
  · cases parsed
  · next nonempty =>
    split at parsed
    · cases parsed
    · next solid =>
      refine ⟨nonempty, solid_iff.mp solid, ?_⟩
      split at parsed
      · next head =>
        split at parsed
        · cases parsed
        · next closes =>
          obtain ⟨first, tail⟩ := List.exists_cons_of_ne_nil nonempty
          obtain ⟨tail, rfl⟩ := tail
          cases Option.some.inj head
          have member : chr ']' ∈ tail := by
            have whole : chr ']' ∈ chr '[' :: tail :=
              List.contains_iff_mem.mp (Bool.not_eq_false _ ▸ closes)
            rcases List.mem_cons.mp whole with same | member
            · exact absurd same (by decide)
            · exact member
          obtain ⟨inside, rest, split, apart⟩ := List.eq_append_cons_of_mem member
          exact .inl ⟨inside, rest, by rw [split], apart⟩
      · split at parsed
        · cases parsed
        · next brackets =>
          rw [not_or] at brackets
          exact .inr (by simpa using brackets)

/-- The texts that are read as an endpoint. -/
inductive Parses (platform : Platform) (defaultPort : Nat) : PyStr → Endpoint platform → Prop where
  | plain {endpoint : Endpoint platform} :
      chr ':' ∉ endpoint.host → endpoint.port = defaultPort →
      Parses platform defaultPort endpoint.host endpoint
  | ported {endpoint : Endpoint platform} {digits : PyStr} :
      chr ':' ∉ endpoint.host → parsePort digits = .ok endpoint.port →
      Parses platform defaultPort (endpoint.host ++ chr ':' :: digits) endpoint
  | bare {endpoint : Endpoint platform} :
      ipVersion endpoint.host = some 6 → chr '[' ∉ endpoint.host → chr ']' ∉ endpoint.host →
      endpoint.port = defaultPort → Parses platform defaultPort endpoint.host endpoint
  | bracketed {endpoint : Endpoint platform} {digits : PyStr} :
      ipVersion endpoint.host = some 6 → chr ']' ∉ endpoint.host →
      parsePort digits = .ok endpoint.port →
      Parses platform defaultPort
        (chr '[' :: (endpoint.host ++ chr ']' :: chr ':' :: digits)) endpoint

theorem parses_of_parse {value : PyStr} {defaultPort : Nat} {endpoint : Endpoint platform}
    (parsed : parse platform value defaultPort = .ok endpoint) :
    Parses platform defaultPort value endpoint := by
  obtain ⟨nonempty, solid, ⟨first, rest, rfl, inside⟩ | ⟨opens, closes⟩⟩ := parse_ok_shape parsed
  · rw [parse_bracketed inside solid] at parsed
    split at parsed
    · cases parsed
    · next shaped =>
      simp only [not_or, not_not] at shaped
      split at parsed
      · cases parsed
      · next numeric =>
        obtain ⟨_, head, _, _⟩ := shaped
        obtain ⟨colon, digits⟩ : ∃ digits, rest = chr ':' :: digits := by
          cases rest with
          | nil => cases head
          | cons point digits => exact ⟨digits, by rw [Option.some.inj head]⟩
        subst digits
        rw [List.drop_succ_cons, List.drop_zero] at parsed
        cases number : parsePort colon with
        | error error =>
            rw [number] at parsed
            cases parsed
        | ok port =>
            rw [number] at parsed
            obtain ⟨rfl, rfl⟩ := make_ok_iff.mp parsed
            exact .bracketed (not_not.mp numeric) inside number
  · by_cases colon : chr ':' ∈ value
    · obtain ⟨host, digits, rfl, before⟩ := List.eq_append_cons_of_mem colon
      by_cases after : chr ':' ∈ digits
      · have colons : 2 ≤ (host ++ chr ':' :: digits).count (chr ':') := by
          have := List.count_pos_iff.mpr after
          rw [List.count_append, List.count_cons_self]
          omega
        rw [parse_colons nonempty solid opens closes colons] at parsed
        split at parsed
        · cases parsed
        · next version numeric =>
          split at parsed
          · cases parsed
          · next six =>
            obtain ⟨same, rfl⟩ := make_ok_iff.mp parsed
            rw [← same] at numeric opens closes ⊢
            exact .bare (numeric.trans (congrArg some (not_not.mp six))) opens closes rfl
      · rw [parse_ported solid opens closes before after] at parsed
        cases number : parsePort digits with
        | error error =>
            rw [number] at parsed
            cases parsed
        | ok port =>
            rw [number] at parsed
            obtain ⟨rfl, rfl⟩ := make_ok_iff.mp parsed
            exact .ported before number
    · rw [parse_plain nonempty solid opens closes colon] at parsed
      obtain ⟨rfl, rfl⟩ := make_ok_iff.mp parsed
      exact .plain colon rfl

theorem PortText.absent {digits : PyStr} {port : Nat} (number : PortText digits port)
    {point : CodePoint} (other : point.isAsciiDigit = false) : point ∉ digits := by
  intro member
  rw [List.all_eq_true.mp number.ascii point member] at other
  cases other

/-- A host without a colon holds no brackets either. -/
theorem host_unbracketed (endpoint : Endpoint platform) (colon : chr ':' ∉ endpoint.host) :
    chr '[' ∉ endpoint.host ∧ chr ']' ∉ endpoint.host := by
  rcases validateHost_ok endpoint.accepted.valid with ⟨member, _⟩ | ⟨_, _, characters⟩
  · exact (colon member).elim
  · have other : isNameCharacter (chr '[') = false ∧ isNameCharacter (chr ']') = false := by decide
    constructor
    · intro member
      rw [characters _ member] at other
      cases other.1
    · intro member
      rw [characters _ member] at other
      cases other.2

theorem parse_of_parses {value : PyStr} {defaultPort : Nat} {endpoint : Endpoint platform}
    (parses : Parses platform defaultPort value endpoint) :
    parse platform value defaultPort = .ok endpoint := by
  have accepted := endpoint.accepted
  have colonDigit : (chr ':').isAsciiDigit = false := by decide
  have openDigit : (chr '[').isAsciiDigit = false := by decide
  have closeDigit : (chr ']').isAsciiDigit = false := by decide
  cases parses with
  | plain colon port =>
      obtain ⟨opens, closes⟩ := endpoint.host_unbracketed colon
      rw [parse_plain accepted.nonempty accepted.solid opens closes colon]
      exact make_ok_iff.mpr ⟨rfl, port⟩
  | @ported _ digits colon parsed =>
      obtain ⟨opens, closes⟩ := endpoint.host_unbracketed colon
      have number := (parsePort_ok_iff.mp parsed).1
      have solid : Solid (endpoint.host ++ chr ':' :: digits) :=
        solid_append.mpr ⟨accepted.solid,
          solid_cons.mpr ⟨by decide, solid_digits number.ascii⟩⟩
      rw [parse_ported solid _ _ colon (number.absent colonDigit), parsed]
      · exact make_ok_iff.mpr ⟨rfl, rfl⟩
      · rw [List.mem_append, List.mem_cons, not_or, not_or]
        exact ⟨opens, by decide, number.absent openDigit⟩
      · rw [List.mem_append, List.mem_cons, not_or, not_or]
        exact ⟨closes, by decide, number.absent closeDigit⟩
  | bare six opens closes port =>
      have colons := isIpv6_colons (ipVersion_six.mp six).2
      rw [parse_colons accepted.nonempty accepted.solid opens closes colons, six]
      exact make_ok_iff.mpr ⟨rfl, port⟩
  | @bracketed _ digits six closes parsed =>
      have number := (parsePort_ok_iff.mp parsed).1
      have solid : Solid (chr '[' :: (endpoint.host ++ chr ']' :: chr ':' :: digits)) :=
        solid_cons.mpr ⟨by decide, solid_append.mpr ⟨accepted.solid, solid_cons.mpr ⟨by decide,
          solid_cons.mpr ⟨by decide, solid_digits number.ascii⟩⟩⟩⟩
      have shaped : ¬ (endpoint.host = [] ∨ (chr ':' :: digits).head? ≠ some (chr ':') ∨
          (chr ':' :: digits).length = 1 ∨
            ((chr ':' :: digits).drop 1).contains (chr ':') = true) := by
        simp [accepted.nonempty, number.nonempty, number.absent colonDigit]
      rw [parse_bracketed closes solid, if_neg shaped, if_neg (not_not.mpr six),
        List.drop_succ_cons, List.drop_zero, parsed]
      exact make_ok_iff.mpr ⟨rfl, rfl⟩

/-- A text is read as an endpoint exactly when it has one of the four forms. -/
theorem parse_ok_iff {value : PyStr} {defaultPort : Nat} {endpoint : Endpoint platform} :
    parse platform value defaultPort = .ok endpoint ↔
      Parses platform defaultPort value endpoint :=
  ⟨parses_of_parse, parse_of_parses⟩

/-! ## Printed endpoints -/

/-- No host that was read from a text holds a closing bracket. -/
theorem Parses.unclosed {value : PyStr} {defaultPort : Nat} {endpoint : Endpoint platform}
    (parses : Parses platform defaultPort value endpoint) : chr ']' ∉ endpoint.host := by
  cases parses with
  | plain colon => exact (endpoint.host_unbracketed colon).2
  | ported colon => exact (endpoint.host_unbracketed colon).2
  | bare _ _ closes => exact closes
  | bracketed _ closes => exact closes

theorem parsePort_natText (endpoint : Endpoint platform) :
    parsePort (natText endpoint.port) = .ok endpoint.port := by
  have bounds := endpoint.port_bounds
  have short : (natText endpoint.port).length ≤ 5 := decimalLength_le (by decide) (by omega)
  obtain ⟨first, rest, text⟩ := natText_cons endpoint.port
  refine parsePort_ok_iff.mpr ⟨⟨?_, ?_, decimalValue_natText _, bounds⟩, ?_⟩
  · rw [text]
    exact List.cons_ne_nil _ _
  · exact List.all_eq_true.mpr fun point member => isAsciiDigit_natText member
  · exact Nat.le_trans short (by decide)

/-- A printed endpoint is read back exactly when its host holds no closing bracket. -/
theorem parse_text_iff (endpoint : Endpoint platform) (defaultPort : Nat) :
    parse platform endpoint.text defaultPort = .ok endpoint ↔ chr ']' ∉ endpoint.host := by
  constructor
  · intro parsed
    exact (parses_of_parse parsed).unclosed
  · intro closes
    apply parse_of_parses
    unfold text
    by_cases colon : chr ':' ∈ endpoint.host
    · rw [if_pos (List.contains_iff_mem.mpr colon), List.cons_append, List.cons_append,
        List.append_assoc]
      rcases validateHost_ok endpoint.accepted.valid with ⟨_, six⟩ | ⟨absent, _⟩
      · exact .bracketed six closes endpoint.parsePort_natText
      · exact (absent colon).elim
    · rw [if_neg fun member => colon (List.contains_iff_mem.mp member)]
      exact .ported colon endpoint.parsePort_natText

/-- An address whose scope is a closing bracket. -/
def bracketScope : Endpoint asciiPlatform := ⟨py "fe80::1%]", 5000, by decide +kernel⟩

theorem bracketScope_not_read_back :
    bracketScope.text = py "[fe80::1%]]:5000" ∧
      parse asciiPlatform bracketScope.text 5000 ≠ .ok bracketScope := by
  refine ⟨by decide +kernel, ?_⟩
  intro parsed
  exact (parses_of_parse parsed).unclosed (by decide)

/-! ## The documented grammar -/

/-- An IPv6 address without whitespace. -/
def Ipv6Text (host : PyStr) : Prop := ipVersion host = some 6 ∧ Solid host

/-- The documented texts: a name or an IPv4 address that the constructor
accepts, with an optional port, or an IPv6 address, in brackets with an optional
port or bare. -/
inductive Grammar (platform : Platform) (defaultPort : Nat) : PyStr → PyStr → Nat → Prop where
  | host {endpoint : Endpoint platform} :
      ipVersion endpoint.host ≠ some 6 → endpoint.port = defaultPort →
      Grammar platform defaultPort endpoint.host endpoint.host endpoint.port
  | hostPort {endpoint : Endpoint platform} {digits : PyStr} :
      ipVersion endpoint.host ≠ some 6 → PortText digits endpoint.port →
      Grammar platform defaultPort (endpoint.host ++ chr ':' :: digits) endpoint.host endpoint.port
  | ipv6 {host : PyStr} : Ipv6Text host → Grammar platform defaultPort host host defaultPort
  | bracketed {host : PyStr} :
      Ipv6Text host →
      Grammar platform defaultPort (chr '[' :: (host ++ [chr ']'])) host defaultPort
  | bracketedPort {host digits : PyStr} {port : Nat} :
      Ipv6Text host → PortText digits port →
      Grammar platform defaultPort (chr '[' :: (host ++ chr ']' :: chr ':' :: digits)) host port

/-- The text is read as the grammar says, and every refusal is an `EndpointError`. -/
def ReadsGrammar (platform : Platform) (defaultPort : Nat) (value : PyStr) : Prop :=
  (∀ host port, Grammar platform defaultPort value host port ↔
    ∃ endpoint, parse platform value defaultPort = .ok endpoint ∧ endpoint.host = host ∧
      endpoint.port = port) ∧
  ∀ error, parse platform value defaultPort = .error error → error.kind = .endpointError

/-- The texts of the grammar that are read: no address in brackets lacks its
port, no address is too long or holds a bracket that is taken for its end, and
no port has more digits than are converted. -/
structure Supported (platform : Platform) (value : PyStr) : Prop where
  ported : ∀ host, Ipv6Text host → value ≠ chr '[' :: (host ++ [chr ']'])
  bare : Ipv6Text value → value.length ≤ 253 ∧ chr '[' ∉ value ∧ chr ']' ∉ value
  bracketed : ∀ host digits port, Ipv6Text host → PortText digits port →
    value = chr '[' :: (host ++ chr ']' :: chr ':' :: digits) →
      host.length ≤ 253 ∧ chr ']' ∉ host ∧ digits.length ≤ maxStrDigits
  digits : ∀ (endpoint : Endpoint platform) digits, ipVersion endpoint.host ≠ some 6 →
    PortText digits endpoint.port → value = endpoint.host ++ chr ':' :: digits →
      digits.length ≤ maxStrDigits

section

variable {defaultPort : Nat} {value : PyStr}

theorem host_colonless {endpoint : Endpoint platform} (other : ipVersion endpoint.host ≠ some 6) :
    chr ':' ∉ endpoint.host := by
  rcases validateHost_ok endpoint.accepted.valid with ⟨_, six⟩ | ⟨colon, _⟩
  · exact (other six).elim
  · exact colon

theorem host_versionless {endpoint : Endpoint platform} (colon : chr ':' ∉ endpoint.host) :
    ipVersion endpoint.host ≠ some 6 := by
  rcases validateHost_ok endpoint.accepted.valid with ⟨member, _⟩ | ⟨_, other, _⟩
  · exact (colon member).elim
  · exact other

/-- What is read is in the grammar. -/
theorem Parses.grammar {endpoint : Endpoint platform}
    (parses : Parses platform defaultPort value endpoint) :
    Grammar platform defaultPort value endpoint.host endpoint.port := by
  cases parses with
  | plain colon port => exact .host (host_versionless colon) port
  | ported colon parsed => exact .hostPort (host_versionless colon) (parsePort_ok_iff.mp parsed).1
  | bare six _ _ port =>
      rw [port]
      exact .ipv6 ⟨six, endpoint.accepted.solid⟩
  | bracketed six _ parsed =>
      exact .bracketedPort ⟨six, endpoint.accepted.solid⟩ (parsePort_ok_iff.mp parsed).1

/-- An IPv6 address that is short enough is a host. -/
theorem Ipv6Text.accepted {host : PyStr} (text : Ipv6Text host) (short : host.length ≤ 253) :
    HostAccepted platform host where
  nonempty := by
    intro empty
    have colons := isIpv6_colons (ipVersion_six.mp text.1).2
    rw [empty] at colons
    simp at colons
  solid := text.2
  short := short
  valid := by
    unfold validateHost
    rw [text.1]
    rfl

/-- What is in the grammar and supported is read. -/
theorem Grammar.parses {host : PyStr} {port : Nat} (bounds : 1 ≤ defaultPort ∧ defaultPort ≤ 65535)
    (supported : Supported platform value)
    (reading : Grammar platform defaultPort value host port) :
    ∃ endpoint, Parses platform defaultPort value endpoint ∧ endpoint.host = host ∧
      endpoint.port = port := by
  cases reading with
  | @host endpoint other named =>
      exact ⟨endpoint, .plain (host_colonless other) named, rfl, rfl⟩
  | @hostPort endpoint digits other number =>
      have short := supported.digits endpoint digits other number rfl
      exact ⟨endpoint, .ported (host_colonless other) (parsePort_ok_iff.mpr ⟨number, short⟩), rfl, rfl⟩
  | ipv6 text =>
      obtain ⟨short, opens, closes⟩ := supported.bare text
      obtain ⟨endpoint, rfl, rfl⟩ := @exists_endpoint platform _ _ (text.accepted short) bounds
      exact ⟨endpoint, .bare text.1 opens closes rfl, rfl, rfl⟩
  | bracketed text => exact (supported.ported host text rfl).elim
  | @bracketedPort _ digits _ text number =>
      obtain ⟨short, closes, few⟩ := supported.bracketed host digits port text number rfl
      obtain ⟨endpoint, rfl, rfl⟩ :=
        @exists_endpoint platform _ _ (text.accepted short) number.bounds
      exact ⟨endpoint, .bracketed text.1 closes (parsePort_ok_iff.mpr ⟨number, few⟩), rfl, rfl⟩

/-- The forms of a text that is read. -/
theorem Parses.forms {endpoint : Endpoint platform}
    (parses : Parses platform defaultPort value endpoint) :
    (value = endpoint.host ∧ chr '[' ∉ value ∧ chr ']' ∉ value) ∨
      (∃ digits, value = endpoint.host ++ chr ':' :: digits ∧ chr '[' ∉ endpoint.host ∧
        digits.length ≤ maxStrDigits) ∨
      ∃ digits, value = chr '[' :: (endpoint.host ++ chr ']' :: chr ':' :: digits) ∧
        digits.length ≤ maxStrDigits := by
  cases parses with
  | plain colon => exact .inl ⟨rfl, endpoint.host_unbracketed colon⟩
  | ported colon parsed =>
      exact .inr (.inl ⟨_, rfl, (endpoint.host_unbracketed colon).1,
        (parsePort_ok_iff.mp parsed).2⟩)
  | bare _ opens closes => exact .inl ⟨rfl, opens, closes⟩
  | bracketed _ _ parsed => exact .inr (.inr ⟨_, rfl, (parsePort_ok_iff.mp parsed).2⟩)

/-- A host followed by anything does not begin with a bracket that it does not hold. -/
theorem host_append_ne (endpoint : Endpoint platform) (opens : chr '[' ∉ endpoint.host)
    (left right : PyStr) : endpoint.host ++ left ≠ chr '[' :: right := by
  intro same
  obtain ⟨first, rest, host⟩ := List.exists_cons_of_ne_nil endpoint.accepted.nonempty
  rw [host, List.cons_append] at same
  rw [host, (List.cons.inj same).1] at opens
  exact opens List.mem_cons_self

/-- A text that is read as the grammar says is supported. -/
theorem supported_of_reads (reads : ReadsGrammar platform defaultPort value) :
    Supported platform value := by
  have parses {host : PyStr} {port : Nat} (reading : Grammar platform defaultPort value host port) :
      ∃ endpoint, Parses platform defaultPort value endpoint ∧ endpoint.host = host := by
    obtain ⟨endpoint, parsed, same, _⟩ := (reads.1 host port).mp reading
    exact ⟨endpoint, parses_of_parse parsed, same⟩
  constructor
  · intro host text same
    obtain ⟨endpoint, parsed, rfl⟩ := parses (same ▸ Grammar.bracketed text)
    rcases parsed.forms with ⟨plain, _⟩ | ⟨digits, ported, opens, _⟩ | ⟨digits, bracketed, _⟩
    · have lengths := congrArg List.length (plain.symm.trans same)
      simp at lengths
      omega
    · exact host_append_ne endpoint opens _ _ (ported.symm.trans same)
    · have lengths := congrArg List.length (bracketed.symm.trans same)
      simp at lengths
  · intro text
    obtain ⟨endpoint, parsed, same⟩ := parses (Grammar.ipv6 text)
    rcases parsed.forms with ⟨_, brackets⟩ | ⟨digits, ported, _⟩ | ⟨digits, bracketed, _⟩
    · exact ⟨same ▸ endpoint.accepted.short, brackets⟩
    · have lengths := congrArg List.length (same.trans ported)
      simp at lengths
    · have lengths := congrArg List.length (same.trans bracketed)
      simp at lengths
      omega
  · intro host digits port text number same
    obtain ⟨endpoint, parsed, rfl⟩ := parses (same ▸ Grammar.bracketedPort text number)
    refine ⟨endpoint.accepted.short, parsed.unclosed, ?_⟩
    rcases parsed.forms with ⟨plain, _⟩ | ⟨others, ported, opens, _⟩ | ⟨others, bracketed, few⟩
    · have lengths := congrArg List.length (plain.symm.trans same)
      simp at lengths
      omega
    · exact (host_append_ne endpoint opens _ _ (ported.symm.trans same)).elim
    · have tails := List.append_cancel_left (List.cons.inj (bracketed.symm.trans same)).2
      simp only [List.cons.injEq, true_and] at tails
      exact tails ▸ few
  · intro named digits other number same
    obtain ⟨endpoint, parsed, host⟩ := parses (same ▸ Grammar.hostPort other number)
    rcases parsed.forms with ⟨plain, _⟩ | ⟨others, ported, opens, few⟩ | ⟨others, bracketed, _⟩
    · have lengths := congrArg List.length (plain.symm.trans same)
      rw [host] at lengths
      simp at lengths
    · have tails := ported.symm.trans same
      rw [host, List.append_cancel_left_eq, List.cons.injEq] at tails
      exact tails.2 ▸ few
    · have opens := (named.host_unbracketed (host_colonless other)).1
      exact (host_append_ne named opens _ _ (same.symm.trans bracketed)).elim

/-- The text is read as the grammar says exactly when it is supported. -/
theorem parse_grammar_iff (bounds : 1 ≤ defaultPort ∧ defaultPort ≤ 65535) (value : PyStr) :
    ReadsGrammar platform defaultPort value ↔ Supported platform value := by
  constructor
  · intro reads
    exact supported_of_reads reads
  · intro supported
    refine ⟨?_, fun error failed => parse_error failed⟩
    intro host port
    constructor
    · intro reading
      obtain ⟨endpoint, parses, same⟩ := reading.parses bounds supported
      exact ⟨endpoint, parse_of_parses parses, same⟩
    · intro read
      obtain ⟨endpoint, parsed, rfl, rfl⟩ := read
      exact (parses_of_parse parsed).grammar

end

/-- A name with a port is read as the grammar says. -/
theorem named_port_read : ReadsGrammar asciiPlatform 5000 (py "host.local:6000") := by
  apply (parse_grammar_iff (by decide) _).mpr
  constructor
  · intro host text same
    exact absurd (List.cons.inj same).1 (by decide)
  · intro text
    exact absurd text.1 (by decide +kernel)
  · intro host digits port text number same
    exact absurd (List.cons.inj same).1 (by decide)
  · intro endpoint digits other number same
    have lengths := congrArg List.length same
    have size : (py "host.local:6000").length = 15 := by decide
    rw [size, List.length_append, List.length_cons] at lengths
    exact Nat.le_trans (by omega) (show 15 ≤ maxStrDigits by decide)

/-- An address in brackets without a port is refused. -/
theorem bracketed_without_port_refused :
    parse asciiPlatform (py "[::1]") 5000 = .error (endpointError "Invalid IPv6 endpoint") ∧
      ¬ ReadsGrammar asciiPlatform 5000 (py "[::1]") := by
  have solid : Solid (py "[::1]") := forall_of_all (by decide)
  have refused : parse asciiPlatform (py "[::1]") 5000 =
      .error (endpointError "Invalid IPv6 endpoint") :=
    (@parse_bracketed asciiPlatform (py "::1") [] (by decide) solid 5000).trans
      (if_pos (.inr (.inl (by decide))))
  refine ⟨refused, ?_⟩
  intro reads
  have address : Ipv6Text (py "::1") := ⟨by decide +kernel, forall_of_all (by decide)⟩
  obtain ⟨endpoint, parsed, _⟩ := (reads.1 _ _).mp (Grammar.bracketed address)
  cases refused.symm.trans parsed

end Endpoint

end DirectTransfer
