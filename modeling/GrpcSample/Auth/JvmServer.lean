import GrpcSample.Auth.Token
import GrpcSample.Lib.Words

/-!
# Authentication in the Java and Kotlin servers

`ServerJwtInterceptor.interceptCall` of `java/` and `kotlin/`, as functions of the `Authorization`
value, of the parser (jjwt's, built with the verification key) and of whether the JVM runs with
assertions enabled. The next handler's `startCall` is taken to return.

The two differ in more than the language. Java trims control characters and the blank, Kotlin what
Unicode calls white space; Java compares the subject up to case. A missing header is a
`NullPointerException` in Java and a `null` for the parser in Kotlin. And what is neither a
`JwtException` nor an `IllegalArgumentException` leaves Java's method, while Kotlin's
`catch (e: Exception)` swallows it and only an `Error` gets out. Kotlin evaluates the argument of
`assert` with assertions disabled, too.
-/

namespace GrpcSample

/-- What leaves the method when it does not return. -/
inductive Thrown where
  | nullPointer | stringIndexOutOfBounds | assertionError
  deriving DecidableEq, Repr

/-- What `interceptCall` does with a call. -/
inductive Handling where
  /-- It goes to the next handler, with `clientId` in its context. -/
  | forwarded (clientId : Option String)
  /-- It is closed with `UNAUTHENTICATED` and this description. -/
  | closed (description : String)
  /-- A listener is returned, and the call is neither forwarded nor closed. -/
  | ignored
  | threw (e : Thrown)
  deriving DecidableEq, Repr

/-- `"Bearer".length()`. -/
def bearerLength : Nat := 6

/-- What `String.trim()` of Java removes. -/
def javaBlank (c : Char) : Bool :=
  c.toNat ≤ 0x20

/-- What `String.trim()` of Kotlin removes: `Character.isWhitespace` or `Character.isSpaceChar`. -/
def kotlinBlank (c : Char) : Bool :=
  0x9 ≤ c.toNat ∧ c.toNat ≤ 0xD ∨ 0x1C ≤ c.toNat ∧ c.toNat ≤ 0x20 ∨
    0x2000 ≤ c.toNat ∧ c.toNat ≤ 0x200A ∨
    c.toNat ∈ [0xA0, 0x1680, 0x2028, 0x2029, 0x202F, 0x205F, 0x3000]

/-- Printing characters of ASCII are blank in neither sense. -/
lemma not_blank_of_graphic {c : Char} (low : 0x21 ≤ c.toNat) (high : c.toNat ≤ 0x7E) :
    javaBlank c = false ∧ kotlinBlank c = false := by
  constructor
  · rw [javaBlank, decide_eq_false_iff_not]
    omega
  · rw [kotlinBlank, decide_eq_false_iff_not]
    simp only [List.mem_cons, List.not_mem_nil, or_false]
    omega

/-- The same of a text that consists of them, in a form that can be evaluated. -/
lemma not_blank_of_all_graphic {cs : List Char}
    (h : cs.all (fun c => Nat.ble 0x21 c.toNat && Nat.ble c.toNat 0x7E) = true) :
    ∀ c ∈ cs, javaBlank c = false ∧ kotlinBlank c = false := by
  intro c mem
  have graphic := List.all_eq_true.mp h c mem
  rw [Bool.and_eq_true, Nat.ble_eq, Nat.ble_eq] at graphic
  exact not_blank_of_graphic graphic.1 graphic.2

/-- `value.substring(BEARER_TYPE.length()).trim()`; `none` where `substring` throws. -/
def tokenAfterBearer (blank : Char → Bool) (value : String) : Option String :=
  if value.length < bearerLength then none
  else some (String.ofList (Words.trim blank (value.toList.drop bearerLength)))

/-- `Character.toUpperCase`, on ASCII and on what it maps there. -/
def upperCase (c : Char) : Char :=
  if c = 'ſ' then 'S' else if c = 'ı' then 'I' else c.toUpper

/-- `Character.toLowerCase`, likewise. -/
def lowerCase (c : Char) : Char :=
  if c = Char.ofNat 0x212A then 'k' else if c = 'İ' then 'i' else c.toLower

/-- `s.equalsIgnoreCase(t)` for an `s` in ASCII; `t` may be `null`. -/
def equalsIgnoreCase (s : String) : Option String → Bool
  | none => false
  | some t => s.toList.map (lowerCase ∘ upperCase) = t.toList.map (lowerCase ∘ upperCase)

namespace Java

/-- `interceptCall`. -/
def interceptCall (parse : Option String → Except JjwtError Claims) (assertions : Bool)
    (value : Option String) : Handling :=
  match value with
  | none => .threw .nullPointer
  | some value =>
    match tokenAfterBearer javaBlank value with
    | none => .threw .stringIndexOutOfBounds
    | some token =>
      match parse (some token) with
      | .error (.jwtException message) | .error (.illegalArgument message) => .closed message
      | .ok claims =>
        if assertions && !clients.any (equalsIgnoreCase · claims.sub) then .threw .assertionError
        else .forwarded claims.sub

end Java

namespace Kotlin

/-- The part of `interceptCall` after the parser has accepted the token. -/
def forward (assertions : Bool) (claims : Claims) : Handling :=
  match claims.sub with
  | none => .ignored  -- `contentEquals(null)` throws a `NullPointerException`
  | some sub =>
    if assertions && !clients.any (· = sub) then .threw .assertionError
    else .forwarded (some sub)

/-- `interceptCall`. -/
def interceptCall (parse : Option String → Except JjwtError Claims) (assertions : Bool)
    (value : Option String) : Handling :=
  let result (token : Option String) : Handling :=
    match parse token with
    | .error (.jwtException message) | .error (.illegalArgument message) => .closed message
    | .ok claims => forward assertions claims
  match value with
  | none => result none
  | some value =>
    match tokenAfterBearer kotlinBlank value with
    | none => .ignored
    | some token => result (some token)

end Kotlin

/-- A token without blanks is what follows the scheme. -/
lemma tokenAfterBearer_eq {blank : Char → Bool} {token : String} (space : blank ' ' = true)
    (h : ∀ c ∈ token.toList, blank c = false) :
    tokenAfterBearer blank ("Bearer " ++ token) = some token := by
  have length : ¬ ("Bearer " ++ token).length < bearerLength := by
    rw [String.length_append]
    exact not_lt_of_ge (Nat.le_trans (by decide) (Nat.le_add_right _ _))
  have rest : ("Bearer " ++ token).toList.drop bearerLength = ' ' :: token.toList := by
    rw [String.toList_append]
    rfl
  rw [tokenAfterBearer, if_neg length, rest, Words.trim_cons space h, String.ofList_toList]

section
variable {parse : Option String → Except JjwtError Claims} {assertions : Bool} {value token : String}
  {sub : String}

/-- Both servers forward a call whose token is accepted, for a subject of the list. -/
lemma Java.interceptCall_forwarded (extracted : tokenAfterBearer javaBlank value = some token)
    (parsed : parse (some token) = .ok ⟨some sub⟩) (listed : sub ∈ clients) :
    Java.interceptCall parse assertions (some value) = .forwarded (some sub) := by
  have matches' : clients.any (equalsIgnoreCase · (some sub)) = true :=
    List.any_eq_true.mpr ⟨sub, listed, decide_eq_true rfl⟩
  simp [interceptCall, extracted, parsed, matches']

/-- The Kotlin server does, too. -/
lemma Kotlin.interceptCall_forwarded (extracted : tokenAfterBearer kotlinBlank value = some token)
    (parsed : parse (some token) = .ok ⟨some sub⟩) (listed : sub ∈ clients) :
    Kotlin.interceptCall parse assertions (some value) = .forwarded (some sub) := by
  have matches' : clients.any (· = sub) = true :=
    List.any_eq_true.mpr ⟨sub, listed, decide_eq_true rfl⟩
  simp [interceptCall, forward, extracted, parsed, matches']

end

end GrpcSample
