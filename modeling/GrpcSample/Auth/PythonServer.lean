import GrpcSample.Auth.Token

/-!
# Authentication in the Python server

`python/src/interceptor/grpc_server_auth_interceptor.py`: `verify_jwt` and `intercept_service` of
`GrpcAuthServerInterceptor`. Either the continuation is invoked, and its handler returned, or an
exception of the check is raised again; there is no third outcome. The server runs `python` without
`-O`, so the `assert` is executed.

The check stands behind `if bearer:`, which a missing header and an empty one fail, so that the
function falls through to the continuation. `fails_closed_iff` says that this is the only way past
the check.
-/

namespace GrpcSample

variable {ε ρ : Type*}

/-- What the check of a header can raise. -/
inductive AuthError (ε : Type*) where
  | indexError
  | decode (e : ε)
  | assertionError

/-- What `intercept_service` comes to. -/
inductive Outcome (ρ ε : Type*) where
  | continued (handler : ρ)
  | raised (e : AuthError ε)

/-- `bearer.split(' ')[1]`, if the list has that many entries. -/
def bearerToken (bearer : String) : Option String :=
  (bearer.toList.splitOn ' ')[1]?.map String.ofList

/-- The body of `if bearer:`. -/
def checkBearer (jwt : PyJwt ε) (secret : Option String) (bearer : String) :
    Except (AuthError ε) Unit :=
  match bearerToken bearer with
  | none => .error .indexError
  | some token =>
    match jwt.decode token (secret.map utf8) [.hs256] with
    | .error e => .error (.decode e)
    | .ok payload => if payload.sub.any (· ∈ clients) then .ok () else .error .assertionError

/-- `verify_jwt`. -/
def verifyJwt (jwt : PyJwt ε) (secret : Option String) (continuation : Metadata → ρ)
    (metadata : Metadata) : Outcome ρ ε :=
  match metadata.get "authorization" with
  | none => .continued (continuation metadata)
  | some bearer =>
    -- `if bearer:` takes the empty string for a missing header
    if bearer = "" then .continued (continuation metadata)
    else
      match checkBearer jwt secret bearer with
      | .error e => .raised e
      | .ok () => .continued (continuation metadata)

/-- `intercept_service`. -/
def interceptService (jwt : PyJwt ε) (secret : Option String) (continuation : Metadata → ρ)
    (metadata : Metadata) : Outcome ρ ε :=
  verifyJwt jwt secret continuation metadata

/-- The metadata carries a token that the verifier accepts under the secret, with a listed `sub`. -/
def Authenticated (jwt : PyJwt ε) (secret : Option String) (metadata : Metadata) : Prop :=
  ∃ bearer token payload sub, metadata.get "authorization" = some bearer ∧
    bearerToken bearer = some token ∧
    jwt.decode token (secret.map utf8) [.hs256] = .ok payload ∧ payload.sub = some sub ∧
    sub ∈ clients

variable {jwt : PyJwt ε} {secret : Option String} {continuation : Metadata → ρ}
  {metadata : Metadata} {bearer : String}

/-- The check passes if and only if there is an accepted token with a listed subject. -/
lemma checkBearer_ok_iff : checkBearer jwt secret bearer = .ok () ↔
    ∃ token payload sub, bearerToken bearer = some token ∧
      jwt.decode token (secret.map utf8) [.hs256] = .ok payload ∧ payload.sub = some sub ∧
      sub ∈ clients := by
  constructor
  · intro checked
    unfold checkBearer at checked
    split at checked
    · cases checked
    · next token word =>
      split at checked
      · cases checked
      · next payload decoded =>
        split at checked
        · next listed =>
          obtain ⟨sub, eq, mem⟩ := (Option.any_eq_true _ _).mp listed
          exact ⟨token, payload, sub, word, decoded, eq, of_decide_eq_true mem⟩
        · cases checked
  · rintro ⟨token, payload, sub, word, decoded, eq, mem⟩
    simp [checkBearer, word, decoded, eq, mem]

/-- A header that is not empty decides the call. -/
lemma verifyJwt_of_bearer (present : metadata.get "authorization" = some bearer) (h : bearer ≠ "") :
    verifyJwt jwt secret continuation metadata =
      match checkBearer jwt secret bearer with
      | .error e => .raised e
      | .ok () => .continued (continuation metadata) := by
  simp [verifyJwt, present, h]

/-- A missing header and an empty one leave the check out. -/
lemma verifyJwt_of_none
    (absent : ∀ bearer, metadata.get "authorization" = some bearer → bearer = "") :
    verifyJwt jwt secret continuation metadata = .continued (continuation metadata) := by
  unfold verifyJwt
  cases present : metadata.get "authorization" with
  | none => rfl
  | some bearer => rw [absent bearer present]; rfl

/-- A missing header and an empty one hold no token that is accepted. -/
lemma not_authenticated_of_none
    (absent : ∀ bearer, metadata.get "authorization" = some bearer → bearer = "") :
    ¬ Authenticated jwt secret metadata := by
  rintro ⟨bearer, token, _, _, present, word, _⟩
  rw [absent bearer present] at word
  cases word

/-- The interceptor continues exactly the authenticated calls and raises on all others, if and only
    if the call has an `authorization` header and it is not empty. -/
theorem fails_closed_iff (jwt : PyJwt ε) (secret : Option String) (continuation : Metadata → ρ)
    (metadata : Metadata) :
    ((∀ handler, interceptService jwt secret continuation metadata = .continued handler →
        Authenticated jwt secret metadata) ∧
      (¬ Authenticated jwt secret metadata →
        ∃ e, interceptService jwt secret continuation metadata = .raised e)) ↔
      ∃ bearer, metadata.get "authorization" = some bearer ∧ bearer ≠ "" := by
  constructor
  · intro ⟨closed, _⟩
    by_contra absent
    have absent' : ∀ bearer, metadata.get "authorization" = some bearer → bearer = "" := by
      intro bearer present
      by_contra h
      exact absent ⟨bearer, present, h⟩
    exact not_authenticated_of_none absent' (closed _ (verifyJwt_of_none absent'))
  · rintro ⟨bearer, present, h⟩
    have decided : interceptService jwt secret continuation metadata = _ :=
      verifyJwt_of_bearer present h
    rw [decided]
    cases checked : checkBearer jwt secret bearer with
    | error e => exact ⟨nofun, fun _ => ⟨e, rfl⟩⟩
    | ok _ =>
      obtain ⟨token, payload, sub, accepted⟩ := checkBearer_ok_iff.mp checked
      have authenticated : Authenticated jwt secret metadata :=
        ⟨bearer, token, payload, sub, present, accepted⟩
      exact ⟨fun _ _ => authenticated, fun h => absurd authenticated h⟩

/-- A verifier that accepts nothing. -/
def rejectAll : PyJwt Unit where
  encode _ _ _ := ""
  decode _ _ _ := .error ()

/-- A call without metadata is continued, whatever the verifier would say. -/
theorem continued_without_header :
    ¬ ∀ metadata : Metadata, ∀ handler,
      interceptService rejectAll (some "secret") (fun _ => ()) metadata = .continued handler →
        Authenticated rejectAll (some "secret") metadata := by
  intro closed
  obtain ⟨_, _, _, _, present, _⟩ := closed [] () rfl
  cases present

end GrpcSample
