import GrpcSample.Auth.Interop

/-!
# Signing a call

`ClientJwtInterceptor.start` of `java/` and `kotlin/`: the `Authorization` header is put into the
metadata of a call that does not have one, and the call goes on with them. `signing_law` follows a
call from there to the servers: the rest of the metadata is as the caller has left it, a header of
the caller's own is not replaced, a second interceptor adds nothing, and the client that a server
finds in the signed metadata is the one that has signed them, where the Java server's charset
encodes the secret as UTF-8 does. `put` is grpc's, and `PutLaws` is what it documents of it.
-/

namespace GrpcSample

variable {ε : Type*}

/-- `containsKey`. -/
def Metadata.containsKey (headers : Metadata) (name : String) : Bool :=
  headers.any fun entry => entry.1 = name

/-- `getAll`. -/
def Metadata.getAll (headers : Metadata) (name : String) : List String :=
  headers.filterMap fun entry => if entry.1 = name then some entry.2 else none

/-- What grpc documents of `put`: the value is added behind those that its name has. -/
structure PutLaws (put : Metadata → String → String → Metadata) : Prop where
  same : ∀ headers name value, (put headers name value).getAll name = headers.getAll name ++ [value]
  others : ∀ headers name value other, other ≠ name →
    (put headers name value).getAll other = headers.getAll other

/-- `start`, up to the call of `super.start`; `none` where `getJwtValue` throws. -/
def signed (put : Metadata → String → String → Metadata) (jwtValue : Option Minted)
    (headers : Metadata) : Option Metadata :=
  if headers.containsKey "authorization" then some headers
  else jwtValue.map fun m => put headers "authorization" m.header

namespace Java

/-- `ClientJwtInterceptor.start`. -/
def start (jjwt : Jjwt) (put : Metadata → String → String → Metadata) (secret : String)
    (headers : Metadata) : Option Metadata :=
  signed put (getJwtValue jjwt "java-client" secret) headers

end Java

namespace Kotlin

/-- `ClientJwtInterceptor.start`. -/
def start (jjwt : Jjwt) (put : Metadata → String → String → Metadata) (secret : String)
    (headers : Metadata) : Option Metadata :=
  signed put (getJwtValue jjwt "kotlin-client" secret) headers

end Kotlin

variable {put : Metadata → String → String → Metadata} {headers : Metadata} {name value : String}

/-- A name is there if it has a value. -/
lemma Metadata.containsKey_iff : headers.containsKey name = true ↔ headers.getAll name ≠ [] := by
  simp [Metadata.containsKey, Metadata.getAll]

/-- The value of a name is the last of its values. -/
lemma Metadata.get_eq_getLast : headers.get name = (headers.getAll name).getLast? := by
  unfold Metadata.get Metadata.getAll
  induction headers with
  | nil => rfl
  | cons entry headers ih =>
    rw [List.reverse_cons, List.lookup_append, ih, List.filterMap_cons]
    by_cases eq : entry.1 = name
    · have here : (name == entry.1) = true := beq_iff_eq.mpr eq.symm
      rw [if_pos eq, List.getLast?_cons, List.lookup_cons, here]
      cases (headers.filterMap fun entry => if entry.1 = name then some entry.2 else none).getLast? with
      | none => rfl
      | some value => rfl
    · have ne : (name == entry.1) = false := beq_false_of_ne (Ne.symm eq)
      rw [if_neg eq, List.lookup_cons, ne]
      exact Option.or_none

namespace PutLaws

/-- What is put is there. -/
lemma containsKey (laws : PutLaws put) : (put headers name value).containsKey name = true := by
  rw [Metadata.containsKey_iff, laws.same]
  exact List.append_ne_nil_of_right_ne_nil _ (List.cons_ne_nil _ _)

/-- The value that is put last is the one that is got. -/
lemma get (laws : PutLaws put) : (put headers name value).get name = some value := by
  rw [Metadata.get_eq_getLast, laws.same]
  exact List.getLast?_concat

end PutLaws

/-- A header of the caller's own is kept. -/
lemma signed_of_contains {jwtValue : Option Minted}
    (own : headers.containsKey "authorization" = true) :
    signed put jwtValue headers = some headers :=
  if_pos own

/-- A missing header is put. -/
lemma signed_of_not_contains {m : Minted} (absent : headers.containsKey "authorization" = false) :
    signed put (some m) headers = some (put headers "authorization" m.header) :=
  if_neg (Bool.eq_false_iff.mp absent)

/-- What a JVM client does to the metadata of a call, and what the servers then make of it, each
    with the key that it has. -/
structure Signs (jwt : PyJwt ε) (jjwt : Jjwt) (charset : String → Bytes) (secret : String)
    (client : Client) (start : Metadata → Option Metadata) (headers out : Metadata) : Prop where
  others : ∀ name, name ≠ "authorization" → out.getAll name = headers.getAll name
  own : headers.containsKey "authorization" = true → out = headers
  again : start out = some out
  java : headers.containsKey "authorization" = false → charset secret = utf8 secret →
    ∃ key, Server.key jjwt charset secret .java = some key ∧ ∀ assertions,
      Java.interceptCall (jjwt.parseSignedClaims key) assertions (out.get "authorization") =
        .forwarded (some client.subject)
  kotlin : headers.containsKey "authorization" = false →
    ∃ key, Server.key jjwt charset secret .kotlin = some key ∧ ∀ assertions,
      Kotlin.interceptCall (jjwt.parseSignedClaims key) assertions (out.get "authorization") =
        .forwarded (some client.subject)
  python : headers.containsKey "authorization" = false → (utf8 secret).length < 48 →
    interceptService jwt (some secret) (fun _ => ()) out = .continued ()

variable {jwt : PyJwt ε} {jjwt : Jjwt} {secret : String} {client : Client} {m : Minted}

/-- A client that has minted a token signs with it. -/
lemma signs_of_mint (laws : PutLaws put) (long : 32 ≤ (utf8 secret).length)
    (verifiable : Verifiable jwt jjwt secret) (minted : client.mint jwt jjwt secret = some m)
    (key : m.key = utf8 secret) (algorithm : m.algorithm = jjwt.signatureAlgorithm (utf8 secret))
    (charset : String → Bytes) (headers : Metadata) :
    ∃ out, signed put (some m) headers = some out ∧
      Signs jwt jjwt charset secret client (signed put (some m)) headers out := by
  have keys := verifiable.keys
  cases present : headers.containsKey "authorization" with
  | true =>
    refine ⟨headers, signed_of_contains present, ?_⟩
    exact
      { others := fun _ _ => rfl
        own := fun _ => rfl
        again := signed_of_contains present
        java := fun absent => absurd present (Bool.eq_false_iff.mp absent)
        kotlin := fun absent => absurd present (Bool.eq_false_iff.mp absent)
        python := fun absent => absurd present (Bool.eq_false_iff.mp absent) }
  | false =>
    have parsed := verifiable.jjwt client m minted
    rw [key] at parsed
    refine ⟨_, signed_of_not_contains present, ?_⟩
    exact
      { others := fun name ne => laws.others _ _ _ name ne
        own := fun own => absurd own (Bool.eq_false_iff.mp present)
        again := signed_of_contains laws.containsKey
        java := fun _ same => by
          refine ⟨utf8 secret, (Server.key_eq_iff keys long).mpr fun _ => same, fun assertions => ?_⟩
          rw [laws.get]
          exact Java.interceptCall_forwarded
            (Server.extract_header .java (verifiable.compact client m minted)) parsed
            client.subject_mem
        kotlin := fun _ => by
          refine ⟨utf8 secret, keys.long _ long, fun assertions => ?_⟩
          rw [laws.get]
          exact Kotlin.interceptCall_forwarded
            (Server.extract_header .kotlin (verifiable.compact client m minted)) parsed
            client.subject_mem
        python := fun _ short => by
          have allowed : m.algorithm ∈ Server.algorithms .python := by
            rw [algorithm, keys.hs256 _ long short]
            exact List.mem_cons_self
          have passes : Server.Passes jwt jjwt true secret m.key
              (put headers "authorization" m.header) .python :=
            Server.passes_of_verifiable .python verifiable minted key allowed laws.get
          exact passes }

/-- A call that is started by a JVM client without a header of its own is signed once, with the rest
    of its metadata unchanged, and it is forwarded in the name of that client by the Kotlin server,
    by the Java server if its charset encodes the secret as UTF-8 does, and by the Python server if
    the secret has less than 48 bytes; with a header of its own it is left alone. -/
theorem signing_law (laws : PutLaws put) (long : 32 ≤ (utf8 secret).length)
    (verifiable : Verifiable jwt jjwt secret) (charset : String → Bytes) (headers : Metadata) :
    (∃ out, Java.start jjwt put secret headers = some out ∧
        Signs jwt jjwt charset secret .java (Java.start jjwt put secret) headers out) ∧
      ∃ out, Kotlin.start jjwt put secret headers = some out ∧
        Signs jwt jjwt charset secret .kotlin (Kotlin.start jjwt put secret) headers out := by
  have value := getJwtValue_eq verifiable.keys long
  constructor
  · have minted : Client.mint jwt jjwt secret .java = _ := value "java-client"
    have signs := signs_of_mint laws long verifiable minted rfl rfl charset headers
    unfold Java.start
    rwa [value]
  · have minted : Client.mint jwt jjwt secret .kotlin = _ := value "kotlin-client"
    have signs := signs_of_mint laws long verifiable minted rfl rfl charset headers
    unfold Kotlin.start
    rwa [value]

/-- `put` on a list of names and values. -/
def putLast (headers : Metadata) (name value : String) : Metadata :=
  headers ++ [(name, value)]

/-- It does what is documented. -/
lemma putLast_laws : PutLaws putLast where
  same headers name value := by simp [putLast, Metadata.getAll]
  others headers name value other ne := by simp [putLast, Metadata.getAll, ne.symm]

/-- A call of the Java client with the deployed secret, at a Java server under UTF-8 and at the
    Python server. -/
theorem signing_law_deployed :
    ∃ out, Java.start issuedJjwt putLast deployedSecret [("user-agent", "grpc-java-netty")] =
        some out ∧
      out.getAll "user-agent" = ["grpc-java-netty"] ∧
      (∃ key, Server.key issuedJjwt utf8 deployedSecret .java = some key ∧ ∀ assertions,
        Java.interceptCall (issuedJjwt.parseSignedClaims key) assertions (out.get "authorization") =
          .forwarded (some "java-client")) ∧
      interceptService issuedPyJwt (some deployedSecret) (fun _ => ()) out = .continued () := by
  have verifiable : Verifiable issuedPyJwt issuedJjwt deployedSecret :=
    issued_verifiable List.mem_cons_self
  obtain ⟨⟨out, started, signs⟩, _⟩ :=
    signing_law putLast_laws (by decide) verifiable utf8 [("user-agent", "grpc-java-netty")]
  exact ⟨out, started, signs.others "user-agent" (by decide), signs.java (by decide) rfl,
    signs.python (by decide) (by decide)⟩

end GrpcSample
