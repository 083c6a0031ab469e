import DirectTransfer.Core.Protocol

/-! Parsing of directly reachable peer endpoints. An address is a numeric IPv4
or IPv6 address as the `ipaddress` module reads it. -/

set_option autoImplicit false

namespace DirectTransfer

open Library

def endpointError (message : String) : Raised := raised .endpointError message

/-- `except (TypeError, ValueError) as error: raise EndpointError(str(error)) from error` -/
def asEndpointError {α : Type} (attempt : Except Raised α) : Except Raised α :=
  match attempt with
  | .ok value => .ok value
  | .error error =>
      if error.kind = .typeError ∨ error.kind.isValueError = true then
        .error ⟨.endpointError, error.message⟩
      else .error error

@[simp] theorem asEndpointError_ok_iff {α : Type} {attempt : Except Raised α} {value : α} :
    asEndpointError attempt = .ok value ↔ attempt = .ok value := by
  cases attempt with
  | ok other => rfl
  | error error =>
      unfold asEndpointError
      simp only
      split <;> simp

/-- Where only caught exceptions are raised, only an endpoint error is left. -/
theorem asEndpointError_error {α : Type} {attempt : Except Raised α} {error : Raised}
    (caught : ∀ first, attempt = .error first →
      first.kind = .typeError ∨ first.kind.isValueError = true)
    (failed : asEndpointError attempt = .error error) : error.kind = .endpointError := by
  cases attempt with
  | ok value => cases failed
  | error first =>
      simp only [asEndpointError, caught first rfl, ↓reduceIte] at failed
      cases failed
      rfl

/-! ## Numeric addresses -/

def decimalValue (text : PyStr) : Nat :=
  text.foldl (fun value digit => value * 10 + (digit.val - 0x30)) 0

/-- One octet of a dotted address, without leading zeros. -/
def isIpv4Octet (text : PyStr) : Bool :=
  text ≠ [] && text.all CodePoint.isAsciiDigit && text.length ≤ 3 &&
    (text = py "0" || text.head? ≠ some (chr '0')) && decimalValue text ≤ 255

def isIpv4 (text : PyStr) : Bool :=
  let octets := text.splitOn (chr '.')
  octets.length = 4 && octets.all isIpv4Octet

def isHexDigit (point : CodePoint) : Bool :=
  point.isAsciiDigit || (0x41 ≤ point.val && point.val ≤ 0x46) ||
    (0x61 ≤ point.val && point.val ≤ 0x66)

def isHextet (text : PyStr) : Bool := text ≠ [] && text.length ≤ 4 && text.all isHexDigit

/-- The parts of an address once a dotted tail is written as two hextets. -/
def ipv6Parts (text : PyStr) : Option (List PyStr) :=
  let parts := text.splitOn (chr ':')
  match parts.getLast? with
  | some last =>
      if last.contains (chr '.') then
        if isIpv4 last then some (parts.dropLast ++ [py "0", py "0"]) else none
      else some parts
  | none => none

/-- The positions of empty parts other than the first and the last. -/
def emptyInner (parts : List PyStr) : List Nat :=
  (List.range parts.length).filter fun index =>
    1 ≤ index && index + 1 < parts.length && parts[index]? = some []

/-- An address without its scope: eight hextets, or fewer around one `::`. -/
def isIpv6Body (text : PyStr) : Bool :=
  if text = [] ∨ (text.splitOn (chr ':')).length < 3 then false
  else match ipv6Parts text with
    | none => false
    | some parts =>
        if 9 < parts.length then false
        else match emptyInner parts with
          | [] => parts.length = 8 && parts.all isHextet
          | [skip] =>
              let high := parts.take skip
              let low := parts.drop (skip + 1)
              -- an empty end belongs to the double colon, or the address is malformed
              let high := if high.head? = some [] then high.drop 1 else high
              let low := if low.getLast? = some [] then low.dropLast else low
              (parts.head? ≠ some [] || high = []) && (parts.getLast? ≠ some [] || low = []) &&
                high.length + low.length < 8 && (high ++ low).all isHextet
          | _ => false

def isIpv6 (text : PyStr) : Bool :=
  if text.contains (chr '/') then false
  else match text.splitOn (chr '%') with
    | [body] => isIpv6Body body
    | [body, scope] => scope ≠ [] && isIpv6Body body
    | _ => false

/-- `ipaddress.ip_address(text).version`, or `none` where it raises. -/
def ipVersion (text : PyStr) : Option Nat :=
  if isIpv4 text then some 4 else if isIpv6 text then some 6 else none

/-! ## Endpoints -/

/-- `validate_port` of an integer. -/
def validatePort (port : Int) : Except Raised Nat :=
  if 1 ≤ port ∧ port ≤ 65535 then .ok port.toNat
  else .error (raised .valueError "port must be between 1 and 65535")

def isAlphanumeric (point : CodePoint) : Bool :=
  point.isAsciiDigit || (0x41 ≤ point.val && point.val ≤ 0x5A) ||
    (0x61 ≤ point.val && point.val ≤ 0x7A)

/-- `^[A-Za-z0-9](?:[A-Za-z0-9_-]{0,61}[A-Za-z0-9])?$` -/
def isHostLabel (text : PyStr) : Bool :=
  1 ≤ text.length && text.length ≤ 63 && (text.head?.any isAlphanumeric) &&
    (text.getLast?.any isAlphanumeric) &&
    text.all fun point => isAlphanumeric point || point = chr '_' || point = chr '-'

def validateHost (platform : Platform) (host : PyStr) : Except Raised Unit :=
  if (ipVersion host).isSome then .ok ()
  else
    let digits := host.filter fun point => point ≠ chr '.'
    if digits ≠ [] ∧ digits.all platform.isDecimal ∧ host.contains (chr '.') then
      .error (endpointError "Malformed IPv4 address")
    else if host.contains (chr ':') then .error (endpointError "Malformed IPv6 address")
    else
      let candidate := if host.getLast? = some (chr '.') then host.dropLast else host
      if candidate = [] ∨ (candidate.splitOn (chr '.')).all isHostLabel = false then
        .error (endpointError "Malformed host name")
      else .ok ()

/-- The checks of a new endpoint, in their order. -/
def checkEndpoint (platform : Platform) (host : PyStr) (port : Int) : Except Raised Nat := do
  if host = [] then throw (endpointError "Host is required")
  if host ≠ strip host ∨ host.any CodePoint.isSpace then
    throw (endpointError "Address must not contain whitespace")
  if 253 < host.length then throw (endpointError "Host name is too long")
  let port ← asEndpointError (validatePort port)
  validateHost platform host
  return port

theorem checkEndpoint_ok {platform : Platform} {host : PyStr} {port : Int} {number : Nat}
    (checked : checkEndpoint platform host port = .ok number) :
    (number : Int) = port ∧ 1 ≤ number ∧ number ≤ 65535 := by
  unfold checkEndpoint at checked
  simp only [bind, Except.bind, pure, Except.pure, throw, throwThe, MonadExceptOf.throw] at checked
  iterate 3
    split at checked
    · cases checked
  split at checked
  · cases checked
  next validated =>
  split at checked <;> cases checked
  rw [asEndpointError_ok_iff] at validated
  unfold validatePort at validated
  split at validated <;> cases validated
  omega

/-- A host with a port that has passed every check. -/
structure Endpoint (platform : Platform) where
  host : PyStr
  port : Nat
  valid : checkEndpoint platform host port = .ok port

namespace Endpoint

variable {platform : Platform}

@[ext] theorem ext {left right : Endpoint platform} (hosts : left.host = right.host)
    (ports : left.port = right.port) : left = right := by
  cases left; cases right; cases hosts; cases ports; rfl

/-- `Endpoint(host, port)`. -/
def make (platform : Platform) (host : PyStr) (port : Int) : Except Raised (Endpoint platform) :=
  match checked : checkEndpoint platform host port with
  | .error error => .error error
  | .ok number => .ok ⟨host, number, by
      rw [(checkEndpoint_ok checked).1, checked]⟩

theorem make_self (endpoint : Endpoint platform) :
    make platform endpoint.host endpoint.port = .ok endpoint := by
  unfold make
  split
  · next error failed => rw [endpoint.valid] at failed; cases failed
  · next number passed =>
      rw [endpoint.valid] at passed
      exact congrArg Except.ok (ext rfl (Except.ok.inj passed).symm)

/-- The digits `int` reads at most, leading zeros included. -/
def maxStrDigits : Nat := 4300

/-- `int` of a text of ASCII digits. -/
def intOfDigits (text : PyStr) : Except Raised Int :=
  if maxStrDigits < text.length then
    .error ⟨.valueError, py "Exceeds the limit (4300 digits) for integer string conversion: value has " ++
      natText text.length ++ py " digits; use sys.set_int_max_str_digits() to increase the limit"⟩
  else .ok (decimalValue text)

def parsePort (text : PyStr) : Except Raised Nat :=
  if text = [] ∨ text.all CodePoint.isAsciiDigit = false then
    .error (endpointError "Port must be a number")
  else asEndpointError (intOfDigits text >>= validatePort)

/-- An address with an optional port, IPv6 in brackets when there is one. -/
def parse (platform : Platform) (value : PyStr) (defaultPort : Nat) :
    Except Raised (Endpoint platform) := do
  if value = [] then throw (endpointError "Address is required")
  if value ≠ strip value ∨ value.any CodePoint.isSpace then
    throw (endpointError "Address must not contain whitespace")
  if value.head? = some (chr '[') then
    if value.contains (chr ']') = false then
      throw (endpointError "Invalid IPv6 bracket syntax")
    let host := (value.drop 1).takeWhile fun point => point ≠ chr ']'
    let rest := value.drop (host.length + 2)
    if host = [] ∨ rest.head? ≠ some (chr ':') ∨ rest.length = 1 ∨
        (rest.drop 1).contains (chr ':') then
      throw (endpointError "Invalid IPv6 endpoint")
    -- the error for a version other than 6 is itself caught as a malformed address
    if ipVersion host ≠ some 6 then throw (endpointError "Malformed IPv6 address")
    make platform host (← parsePort (rest.drop 1))
  else if value.contains (chr '[') ∨ value.contains (chr ']') then
    throw (endpointError "Invalid bracket syntax")
  else match value.splitOn (chr ':') with
    | [_] => make platform value defaultPort
    | [host, port] => do make platform host (← parsePort port)
    | _ => match ipVersion value with
      | none => throw (endpointError "Malformed IPv6 address")
      | some version =>
          if version ≠ 6 then throw (endpointError "Malformed address")
          make platform value defaultPort

/-- `str(endpoint)`. -/
def text (endpoint : Endpoint platform) : PyStr :=
  (if endpoint.host.contains (chr ':') then chr '[' :: endpoint.host ++ [chr ']']
    else endpoint.host) ++ chr ':' :: natText endpoint.port

end Endpoint

end DirectTransfer
