import GrpcSample.Auth.JvmServer
import GrpcSample.Auth.PythonServer

/-!
# Tokens across the implementations

`AuthInterceptor` of `python/` and `ClientJwtInterceptor` of `java/` and `kotlin/` mint the header,
each from the shared `JWT_SECRET`; the three servers read it. A client and a server agree when the
server extracts the minted token, verifies with the key it was signed with, allows the algorithm it
was signed with and lists its subject, and so lets the call through.

They disagree in two places. The JVM clients choose the algorithm by the length of the key, while
the Python server allows `HS256` alone, so from 48 bytes on it refuses their tokens. And the Java
server encodes the secret with `getBytes()`, that is, in the default charset of its JVM, where every
other party uses UTF-8. `interoperates_iff` says that there is nothing else, for each pair and any
secret that is long enough for the clients; what it asks of the libraries is `Verifiable`.
-/

namespace GrpcSample

/-- The clients that mint tokens. -/
inductive Client where
  | python | java | kotlin
  deriving DecidableEq, Repr

/-- The servers that read them. -/
inductive Server where
  | python | java | kotlin
  deriving DecidableEq, Repr

/-- A token, with the key and the algorithm it was signed with. -/
structure Minted where
  token : String
  key : Bytes
  algorithm : Algorithm
  deriving DecidableEq

/-- The header that carries a token, in all three clients. -/
def Minted.header (m : Minted) : String :=
  "Bearer " ++ m.token

variable {ε : Type*}

/-- `getJwtValue` of the Java and Kotlin clients. -/
def getJwtValue (jjwt : Jjwt) (subject secret : String) : Option Minted :=
  (jjwt.hmacShaKeyFor (utf8 secret)).map fun secretKey =>
    ⟨jjwt.compact subject secretKey (jjwt.signatureAlgorithm secretKey), secretKey,
      jjwt.signatureAlgorithm secretKey⟩

/-- The subject that a client signs for. -/
def Client.subject : Client → String
  | .python => "python-client"
  | .java => "java-client"
  | .kotlin => "kotlin-client"

/-- The token a client mints; a JVM client throws on a secret that is too short. -/
def Client.mint (jwt : PyJwt ε) (jjwt : Jjwt) (secret : String) : Client → Option Minted
  | .python => some ⟨jwt.encode ⟨some "python-client"⟩ (utf8 secret) .hs256, utf8 secret, .hs256⟩
  | .java => getJwtValue jjwt "java-client" secret
  | .kotlin => getJwtValue jjwt "kotlin-client" secret

/-- The key a server verifies with; `charset` is the default charset of the Java server's JVM. -/
def Server.key (jjwt : Jjwt) (charset : String → Bytes) (secret : String) : Server → Option Bytes
  | .python => some (utf8 secret)
  | .java => jjwt.hmacShaKeyFor (charset secret)
  | .kotlin => jjwt.hmacShaKeyFor (utf8 secret)

/-- The algorithms a server allows. -/
def Server.algorithms : Server → List Algorithm
  | .python => [.hs256]
  | .java | .kotlin => [.hs256, .hs384, .hs512]

/-- The token a server extracts from a header. -/
def Server.extract : Server → String → Option String
  | .python => bearerToken
  | .java => tokenAfterBearer javaBlank
  | .kotlin => tokenAfterBearer kotlinBlank

/-- A server that verifies with `key` lets a call through. -/
def Server.Passes (jwt : PyJwt ε) (jjwt : Jjwt) (assertions : Bool) (secret : String) (key : Bytes)
    (metadata : Metadata) : Server → Prop
  | .python => interceptService jwt (some secret) (fun _ => ()) metadata = .continued ()
  | .java => ∃ clientId, Java.interceptCall (jjwt.parseSignedClaims key) assertions
      (metadata.get "authorization") = .forwarded clientId
  | .kotlin => ∃ clientId, Kotlin.interceptCall (jjwt.parseSignedClaims key) assertions
      (metadata.get "authorization") = .forwarded clientId

/-- The server accepts the header of `client`. -/
structure Server.Accepts (jwt : PyJwt ε) (jjwt : Jjwt) (charset : String → Bytes)
    (assertions : Bool) (secret : String) (client : Client) (m : Minted) (server : Server) :
    Prop where
  extracted : server.extract m.header = some m.token
  key : server.key jjwt charset secret = some m.key
  algorithm : m.algorithm ∈ server.algorithms
  subject : client.subject ∈ clients
  passes : ∀ metadata : Metadata, metadata.get "authorization" = some m.header →
    server.Passes jwt jjwt assertions secret m.key metadata

/-- The client mints a header, and the server accepts it. -/
def Interoperates (jwt : PyJwt ε) (jjwt : Jjwt) (charset : String → Bytes) (assertions : Bool)
    (secret : String) (client : Client) (server : Server) : Prop :=
  ∃ m, client.mint jwt jjwt secret = some m ∧
    server.Accepts jwt jjwt charset assertions secret client m

/-- What the libraries are relied on for: jjwt's keys, and of the tokens minted from a secret that
    they contain nothing that a reader takes for a blank and that both verifiers return the subject
    of a token under the key and an algorithm it was signed with. -/
structure Verifiable (jwt : PyJwt ε) (jjwt : Jjwt) (secret : String) : Prop where
  keys : jjwt.KeyLaws
  compact : ∀ (client : Client) (m : Minted), client.mint jwt jjwt secret = some m →
    ∀ c ∈ m.token.toList, javaBlank c = false ∧ kotlinBlank c = false
  pyJwt : ∀ (client : Client) (m : Minted), client.mint jwt jjwt secret = some m →
    ∀ algorithms, m.algorithm ∈ algorithms →
      jwt.decode m.token (some m.key) algorithms = .ok ⟨some client.subject⟩
  jjwt : ∀ (client : Client) (m : Minted), client.mint jwt jjwt secret = some m →
    jjwt.parseSignedClaims m.key (some m.token) = .ok ⟨some client.subject⟩

variable {jwt : PyJwt ε} {jjwt : Jjwt} {charset : String → Bytes} {assertions : Bool}
  {secret : String} {client : Client} {server : Server} {m : Minted}

/-- A long enough secret is the key of a JVM client. -/
lemma getJwtValue_eq (keys : jjwt.KeyLaws) (long : 32 ≤ (utf8 secret).length) (subject : String) :
    getJwtValue jjwt subject secret =
      some ⟨jjwt.compact subject (utf8 secret) (jjwt.signatureAlgorithm (utf8 secret)), utf8 secret,
        jjwt.signatureAlgorithm (utf8 secret)⟩ := by
  rw [getJwtValue, keys.long _ long]
  rfl

/-- It makes every client mint a token under its UTF-8 encoding, with the algorithm of the client.
    -/
lemma Client.mint_eq (keys : jjwt.KeyLaws) (long : 32 ≤ (utf8 secret).length) (client : Client) :
    ∃ token, client.mint jwt jjwt secret = some ⟨token, utf8 secret,
      if client = .python then .hs256 else jjwt.signatureAlgorithm (utf8 secret)⟩ := by
  cases client with
  | python => exact ⟨_, rfl⟩
  | java => exact ⟨_, getJwtValue_eq keys long "java-client"⟩
  | kotlin => exact ⟨_, getJwtValue_eq keys long "kotlin-client"⟩

/-- Every client is on the servers' list. -/
lemma Client.subject_mem (client : Client) : client.subject ∈ clients := by
  cases client <;> decide

/-- All three readers give back a token without blanks. -/
lemma Server.extract_header (server : Server)
    (compact : ∀ c ∈ m.token.toList, javaBlank c = false ∧ kotlinBlank c = false) :
    server.extract m.header = some m.token := by
  cases server with
  | python =>
    have blank : ' ' ∉ m.token.toList := by
      intro mem
      have := (compact ' ' mem).1
      revert this
      decide
    have words : m.header.toList.splitOn ' ' = ["Bearer".toList, m.token.toList] := by
      rw [← Words.splitOn_eq (by decide) blank, Minted.header, String.toList_append]
      rfl
    rw [extract, bearerToken, words]
    exact congrArg some String.ofList_toList
  | java => exact tokenAfterBearer_eq rfl fun c mem => (compact c mem).1
  | kotlin => exact tokenAfterBearer_eq rfl fun c mem => (compact c mem).2

/-- A server whose libraries verify the token lets the call through. -/
lemma Server.passes_of_verifiable (server : Server) (verifiable : Verifiable jwt jjwt secret)
    (minted : client.mint jwt jjwt secret = some m) (key : m.key = utf8 secret)
    (algorithm : m.algorithm ∈ server.algorithms) {metadata : Metadata}
    (present : metadata.get "authorization" = some m.header) :
    server.Passes jwt jjwt assertions secret m.key metadata := by
  have extracted := server.extract_header (verifiable.compact client m minted)
  have parsed := verifiable.jjwt client m minted
  cases server with
  | python =>
    have decoded := verifiable.pyJwt client m minted _ algorithm
    rw [key] at decoded
    -- the header is not empty, so the check is made
    have cons : m.header ≠ "" := by
      intro empty
      rw [extract, empty] at extracted
      cases extracted
    have checked : checkBearer jwt (some secret) m.header = .ok () :=
      checkBearer_ok_iff.mpr ⟨m.token, _, _, extracted, decoded, rfl, client.subject_mem⟩
    have decided : interceptService jwt (some secret) (fun _ => ()) metadata = _ :=
      verifyJwt_of_bearer present cons
    rw [checked] at decided
    exact decided
  | java =>
    refine ⟨some client.subject, ?_⟩
    rw [present]
    exact Java.interceptCall_forwarded extracted parsed client.subject_mem
  | kotlin =>
    refine ⟨some client.subject, ?_⟩
    rw [present]
    exact Kotlin.interceptCall_forwarded extracted parsed client.subject_mem

/-- A server has the clients' key, unless it is the Java server under another charset. -/
lemma Server.key_eq_iff (keys : jjwt.KeyLaws) (long : 32 ≤ (utf8 secret).length) :
    server.key jjwt charset secret = some (utf8 secret) ↔
      (server = .java → charset secret = utf8 secret) := by
  cases server with
  | python => exact ⟨fun _ => nofun, fun _ => rfl⟩
  | kotlin => exact ⟨fun _ => nofun, fun _ => keys.long _ long⟩
  | java =>
    constructor
    · exact fun key _ => keys.eq_of_some key
    · intro same
      rw [key, same rfl]
      exact keys.long _ long

/-- A server allows a client's algorithm, unless the server is Python's and the key a long one. -/
lemma Server.algorithm_mem_iff (keys : jjwt.KeyLaws) (long : 32 ≤ (utf8 secret).length) :
    (if client = .python then .hs256 else jjwt.signatureAlgorithm (utf8 secret)) ∈
        server.algorithms ↔
      (server = .python → client = .python ∨ (utf8 secret).length < 48) := by
  cases server with
  | python =>
    rw [algorithms, List.mem_singleton, ← keys.hs256_iff long]
    split
    · next eq => exact ⟨fun _ _ => .inl eq, fun _ => rfl⟩
    · next ne => exact ⟨fun h _ => .inr h, fun h => (h rfl).resolve_left ne⟩
  | java =>
    refine ⟨fun _ => nofun, fun _ => ?_⟩
    generalize (if client = .python then Algorithm.hs256 else _) = algorithm
    cases algorithm <;> decide
  | kotlin =>
    refine ⟨fun _ => nofun, fun _ => ?_⟩
    generalize (if client = .python then Algorithm.hs256 else _) = algorithm
    cases algorithm <;> decide

/-- For a secret of at least 32 bytes, a server accepts the header of a client if and only if: the
    Python server has to do with its own client or with a secret of less than 48 bytes, and the Java
    server's default charset encodes the secret as UTF-8 does. -/
theorem interoperates_iff (charset : String → Bytes) (assertions : Bool) (client : Client)
    (server : Server) (long : 32 ≤ (utf8 secret).length)
    (verifiable : Verifiable jwt jjwt secret) :
    Interoperates jwt jjwt charset assertions secret client server ↔
      (server = .python → client = .python ∨ (utf8 secret).length < 48) ∧
        (server = .java → charset secret = utf8 secret) := by
  have keys := verifiable.keys
  obtain ⟨token, minted⟩ : ∃ token, client.mint jwt jjwt secret = _ := client.mint_eq keys long
  rw [← Server.key_eq_iff keys long, ← Server.algorithm_mem_iff keys long]
  constructor
  · rintro ⟨m, eq, accepts⟩
    rw [minted] at eq
    cases eq
    exact ⟨accepts.algorithm, accepts.key⟩
  · rintro ⟨algorithm, key⟩
    exact ⟨_, minted, server.extract_header (verifiable.compact client _ minted), key, algorithm,
      client.subject_mem, fun _ present =>
        server.passes_of_verifiable verifiable minted rfl algorithm present⟩

-- The deployed secret has 44 bytes, the other one four more. The libraries are given by the tokens
-- they issue for the two: a verifier accepts a token of the table under its key, if the algorithm
-- is allowed.

/-- `JWT_SECRET` of the deployment, with 44 bytes. -/
def deployedSecret : String := "L8hHXsaQOUjk5rg7XPGv4eL36anlCrkMz8CJ0i/8E/0="

/-- A secret with four bytes more. -/
def longSecret : String := "L8hHXsaQOUjk5rg7XPGv4eL36anlCrkMz8CJ0i/8E/0=2024"

/-- An entry of the table of issued tokens. -/
structure Issued where
  subject : String
  secret : String
  algorithm : Algorithm
  header : String
  payload : String
  signature : String
  deriving DecidableEq

/-- The compact form. -/
def Issued.token (t : Issued) : String :=
  t.header ++ "." ++ t.payload ++ "." ++ t.signature

/-- The tokens that the libraries issue for the two secrets. -/
def issued : List Issued :=
  [⟨"python-client", deployedSecret, .hs256,
      "eyJhbGciOiJIUzI1NiIsInR5cCI6IkpXVCJ9", "eyJzdWIiOiJweXRob24tY2xpZW50In0",
      "so0I9cBxpl4AH-pG51EUKLWwMtKNr29r57ddsFBfapQ"⟩,
    ⟨"java-client", deployedSecret, .hs256,
      "eyJhbGciOiJIUzI1NiJ9", "eyJzdWIiOiJqYXZhLWNsaWVudCJ9",
      "5Et6kL0K_z3kAeUL2JFq9KLts9XKpkHy2rtz2w2IhBk"⟩,
    ⟨"kotlin-client", deployedSecret, .hs256,
      "eyJhbGciOiJIUzI1NiJ9", "eyJzdWIiOiJrb3RsaW4tY2xpZW50In0",
      "kx6rgWdS0QBhOeD7xfzGg9WBbQU5WrBLj9mv6vF3RvI"⟩,
    ⟨"python-client", longSecret, .hs256,
      "eyJhbGciOiJIUzI1NiIsInR5cCI6IkpXVCJ9", "eyJzdWIiOiJweXRob24tY2xpZW50In0",
      "9QgyUDF89C7Gj4E3BTHDB-FXwxYOg1dD8gwUTghfRQE"⟩,
    ⟨"java-client", longSecret, .hs384,
      "eyJhbGciOiJIUzM4NCJ9", "eyJzdWIiOiJqYXZhLWNsaWVudCJ9",
      "sA84gaC-USfFN4CCWQiAjyx1SqO5DZg-kBqZsbVLtHzOOdhfTOcClVB5MR_TSzlV"⟩,
    ⟨"kotlin-client", longSecret, .hs384,
      "eyJhbGciOiJIUzM4NCJ9", "eyJzdWIiOiJrb3RsaW4tY2xpZW50In0",
      "yRWB17wC8oHkPY5Mvqdf4AMnn3C9yhfBXzuJI82jZA2FJPwUYE2ToLO-3ds_jqGy"⟩]

/-- The token of the table for a subject, a key and an algorithm. -/
def issuedToken (subject : String) (key : Bytes) (algorithm : Algorithm) : String :=
  (issued.find? fun t => t.subject = subject ∧ utf8 t.secret = key ∧ t.algorithm = algorithm).elim ""
    (·.token)

/-- PyJWT on the table: a token is accepted under its key if its algorithm is allowed. -/
def issuedPyJwt : PyJwt Unit where
  encode payload := issuedToken (payload.sub.getD "")
  decode token key algorithms :=
    match issued.find? fun t => t.token = token with
    | none => .error ()
    | some t =>
      if key = some (utf8 t.secret) ∧ t.algorithm ∈ algorithms then .ok ⟨some t.subject⟩
      else .error ()

/-- jjwt on the table: a token is accepted under its key. -/
def issuedJjwt : Jjwt where
  hmacShaKeyFor bytes := if bytes.length * 8 < 256 then none else some bytes
  signatureAlgorithm key :=
    if 512 ≤ key.length * 8 then .hs512 else if 384 ≤ key.length * 8 then .hs384 else .hs256
  compact := issuedToken
  parseSignedClaims key
    | none => .error (.illegalArgument "CharSequence cannot be null or empty.")
    | some token =>
      match issued.find? fun t => t.token = token with
      | none => .error (.jwtException "Malformed JWT")
      | some t =>
        if key = utf8 t.secret then .ok ⟨some t.subject⟩
        else .error (.jwtException "JWT signature does not match locally computed signature.")

/-- It has jjwt's rules of keys. -/
lemma issued_keys : issuedJjwt.KeyLaws where
  weak _ short := if_pos (by omega)
  long _ long := if_neg (by omega)
  hs256 _ _ short := (if_neg (by omega)).trans (if_neg (by omega))
  hs384 _ long short := (if_neg (by omega)).trans (if_pos (by omega))
  hs512 _ long := if_pos (by omega)

/-- What the clients mint is in the table. -/
lemma issued_mint {secret : String} (h : secret ∈ [deployedSecret, longSecret]) (client : Client) :
    ∃ t ∈ issued, client.mint issuedPyJwt issuedJjwt secret =
      some ⟨t.token, utf8 t.secret, t.algorithm⟩ ∧ t.subject = client.subject := by
  revert h
  cases client <;> revert secret <;> decide +kernel

/-- The parts of the tokens are printing ASCII characters. -/
lemma issued_graphic : ∀ t ∈ issued, ∀ part ∈ [t.header, ".", t.payload, ".", t.signature],
    part.toList.all (fun c => Nat.ble 0x21 c.toNat && Nat.ble c.toNat 0x7E) = true := by
  decide +kernel

/-- So the tokens have no blanks. -/
lemma issued_compact : ∀ t ∈ issued, ∀ c ∈ t.token.toList,
    javaBlank c = false ∧ kotlinBlank c = false := by
  intro t mem c mem'
  obtain ⟨part, part_mem, c_mem⟩ :
      ∃ part ∈ [t.header, ".", t.payload, ".", t.signature], c ∈ part.toList := by
    simp only [Issued.token, String.toList_append, List.mem_append] at mem'
    simpa [or_assoc] using mem'
  exact not_blank_of_all_graphic (issued_graphic t mem part part_mem) c c_mem

/-- No two entries have the same token. -/
lemma issued_find : ∀ t ∈ issued, (issued.find? fun t' => t'.token = t.token) = some t := by
  decide

/-- The table is what the libraries are relied on for. -/
lemma issued_verifiable {secret : String} (h : secret ∈ [deployedSecret, longSecret]) :
    Verifiable issuedPyJwt issuedJjwt secret := by
  have entry : ∀ (client : Client) (m : Minted),
      client.mint issuedPyJwt issuedJjwt secret = some m →
      ∃ t ∈ issued, m = ⟨t.token, utf8 t.secret, t.algorithm⟩ ∧ t.subject = client.subject := by
    intro client m minted
    obtain ⟨t, mem, eq, subject⟩ := issued_mint h client
    rw [minted] at eq
    exact ⟨t, mem, Option.some.inj eq, subject⟩
  refine ⟨issued_keys, ?_, ?_, ?_⟩
  · intro client m minted
    obtain ⟨t, mem, rfl, _⟩ := entry client m minted
    exact issued_compact t mem
  · intro client m minted algorithms allowed
    obtain ⟨t, mem, rfl, subject⟩ := entry client m minted
    simp only [issuedPyJwt, issued_find t mem, ← subject]
    exact if_pos ⟨trivial, allowed⟩
  · intro client m minted
    obtain ⟨t, mem, rfl, subject⟩ := entry client m minted
    simp only [issuedJjwt, issued_find t mem, ← subject]
    exact if_pos trivial

/-- With the deployed secret, tokens of the Java client pass the Python server, and tokens of the
    Python client the Java server. -/
theorem interoperates_iff_deployed :
    Interoperates issuedPyJwt issuedJjwt utf8 true deployedSecret .java .python ∧
      Interoperates issuedPyJwt issuedJjwt utf8 false deployedSecret .python .java := by
  have long : 32 ≤ (utf8 deployedSecret).length := by decide
  have verifiable : Verifiable issuedPyJwt issuedJjwt deployedSecret :=
    issued_verifiable List.mem_cons_self
  constructor
  · apply (interoperates_iff utf8 true .java .python long verifiable).mpr
    exact ⟨fun _ => .inr (by decide), nofun⟩
  · apply (interoperates_iff utf8 false .python .java long verifiable).mpr
    exact ⟨nofun, fun _ => rfl⟩

/-- With the longer secret the Java client signs with `HS384`, which the Python server refuses. -/
theorem long_secret_refused :
    ¬ ∀ (secret : String) (client : Client) (server : Server), 32 ≤ (utf8 secret).length →
      Verifiable issuedPyJwt issuedJjwt secret →
      Interoperates issuedPyJwt issuedJjwt utf8 true secret client server := by
  intro interoperate
  have long : 32 ≤ (utf8 longSecret).length := by decide
  have verifiable : Verifiable issuedPyJwt issuedJjwt longSecret :=
    issued_verifiable (List.mem_cons_of_mem _ List.mem_cons_self)
  obtain ⟨m, minted, accepts⟩ := interoperate longSecret .java .python long verifiable
  obtain ⟨token, eq⟩ := Client.mint_eq issued_keys long .java
  rw [eq] at minted
  cases minted
  have allowed : issuedJjwt.signatureAlgorithm (utf8 longSecret) = .hs256 :=
    List.mem_singleton.mp accepts.algorithm
  exact absurd ((issued_keys.hs256_iff long).mp allowed) (by decide)

end GrpcSample
