import GrpcSample.Grpc.Bytes
import Mathlib.Tactic.Common

/-!
# Tokens and keys

What the clients and servers of the three implementations take from their libraries. PyJWT and jjwt
are parameters: `PyJwt` is `jwt.encode` and `jwt.decode`, `Jjwt` is the keys and the algorithm that
jjwt takes for them, the builder's `compact()` for a subject and a key, and the parser's
`parseSignedClaims`. Of a token's claims the program reads `sub` alone. A `str` key is used by PyJWT
as its UTF-8 encoding. What jjwt documents of keys is `Jjwt.KeyLaws`.

Header values are text in ASCII, so that a character is one unit of a Java string.
-/

namespace GrpcSample

/-- The algorithms that the libraries sign with. -/
inductive Algorithm where
  | hs256 | hs384 | hs512
  deriving DecidableEq, Repr

/-- The claims of a verified token, as far as they are read. -/
structure Claims where
  sub : Option String
  deriving DecidableEq, Repr

/-- PyJWT, with the exceptions `ε` of `jwt.decode`; the key is `None` when the variable is unset. -/
structure PyJwt (ε : Type*) where
  encode (payload : Claims) (key : Bytes) (algorithm : Algorithm) : String
  decode (token : String) (key : Option Bytes) (algorithms : List Algorithm) : Except ε Claims

/-- The exceptions of jjwt's parser, with their messages. -/
inductive JjwtError where
  | jwtException (message : String)
  | illegalArgument (message : String)

/-- jjwt: `Keys.hmacShaKeyFor`, with `none` for its `WeakKeyException`, the algorithm that
    `signWith(key)` takes, the builder, and the parser, which is given `null` where there is no
    token. -/
structure Jjwt where
  hmacShaKeyFor (bytes : Bytes) : Option Bytes
  signatureAlgorithm (key : Bytes) : Algorithm
  compact (subject : String) (key : Bytes) (algorithm : Algorithm) : String
  parseSignedClaims (key : Bytes) (token : Option String) : Except JjwtError Claims

/-- What jjwt documents of keys: less than 256 bits are refused, and the algorithm is the strongest
    one that the key is long enough for. -/
structure Jjwt.KeyLaws (jjwt : Jjwt) : Prop where
  weak : ∀ bytes, bytes.length < 32 → jjwt.hmacShaKeyFor bytes = none
  long : ∀ bytes, 32 ≤ bytes.length → jjwt.hmacShaKeyFor bytes = some bytes
  hs256 : ∀ key, 32 ≤ key.length → key.length < 48 → jjwt.signatureAlgorithm key = .hs256
  hs384 : ∀ key, 48 ≤ key.length → key.length < 64 → jjwt.signatureAlgorithm key = .hs384
  hs512 : ∀ key, 64 ≤ key.length → jjwt.signatureAlgorithm key = .hs512

/-- `clients`, `CLIENTS`: the list is the same in all three servers. -/
def clients : List String :=
  ["kotlin-client", "python-client", "java-client"]

/-- The metadata of a call: lower-case names and their values, in order. -/
abbrev Metadata := List (String × String)

/-- The value of a name, the last one if there are several: what `dict` keeps, and what
    `Metadata.get` returns. -/
def Metadata.get (headers : Metadata) (name : String) : Option String :=
  headers.reverse.lookup name

namespace Jjwt.KeyLaws

variable {jjwt : Jjwt} {bytes key : Bytes}

/-- A key has the bytes that it was made from. -/
lemma eq_of_some (laws : jjwt.KeyLaws) (made : jjwt.hmacShaKeyFor bytes = some key) :
    bytes = key := by
  rcases Nat.lt_or_ge bytes.length 32 with short | long
  · rw [laws.weak bytes short] at made
    cases made
  · rw [laws.long bytes long] at made
    exact Option.some.inj made

/-- A key is used with `HS256` up to 47 bytes. -/
lemma hs256_iff (laws : jjwt.KeyLaws) (long : 32 ≤ key.length) :
    jjwt.signatureAlgorithm key = .hs256 ↔ key.length < 48 := by
  constructor
  · intro hs256
    by_contra longer
    rcases Nat.lt_or_ge key.length 64 with lt | ge
    · rw [laws.hs384 key (Nat.le_of_not_lt longer) lt] at hs256
      cases hs256
    · rw [laws.hs512 key ge] at hs256
      cases hs256
  · exact laws.hs256 key long

end Jjwt.KeyLaws

end GrpcSample
