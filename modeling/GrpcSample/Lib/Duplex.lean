import GrpcSample.Lib.Run

/-!
# Two parties and two queues

A client works off a script of inputs; a server reacts to each of them, in the order in which they
arrive, by sending some outputs. Inputs and outputs travel in one queue each, so that nothing is
lost or overtaken, and otherwise sending, serving and receiving may follow one another in any order:
`link` is the system of all these interleavings.

What the client is still going to receive does not depend on the order. `outlook` is everything it
has received, followed by what is on its way and by what the server will yet send; no move changes
it. So at any time the client has received a prefix of the server's answers to the whole script
(`received_prefix`), and after exactly as many moves as there are sends, reactions and deliveries to
be made it has received all of them (`length_of_run`, `received_eq`).
-/

namespace Duplex
open Lts

/-- A party that reacts to inputs; `opening` is what it sends unasked. -/
structure Party (σ ι ο : Type*) where
  start : σ
  opening : List ο
  react : σ → ι → σ × List ο

/-- The client's script, the two queues, the server, and what the client has received. -/
structure Link (σ ι ο : Type*) where
  script : List ι
  up : List ι
  server : σ
  down : List ο
  received : List ο

/-- The client sends an input, the server takes one, or an output is delivered. -/
inductive Move where
  | send | serve | deliver
  deriving DecidableEq, Repr

variable {σ ι ο : Type*}

/-- What the server sends in reaction to inputs. -/
def Party.sends (p : Party σ ι ο) : σ → List ι → List ο
  | _, [] => []
  | s, x :: xs => (p.react s x).2 ++ p.sends (p.react s x).1 xs

/-- All that the server sends when it has been given the whole script. -/
def Party.answers (p : Party σ ι ο) (script : List ι) : List ο :=
  p.opening ++ p.sends p.start script

/-- One move of one of the two, or of a queue. -/
inductive Step (p : Party σ ι ο) : Link σ ι ο → Move → Link σ ι ο → Prop where
  | send {x script up s down received} :
    Step p ⟨x :: script, up, s, down, received⟩ .send ⟨script, up ++ [x], s, down, received⟩
  | serve {script x up s down received} :
    Step p ⟨script, x :: up, s, down, received⟩ .serve
      ⟨script, up, (p.react s x).1, down ++ (p.react s x).2, received⟩
  | deliver {script up s r down received} :
    Step p ⟨script, up, s, r :: down, received⟩ .deliver ⟨script, up, s, down, received ++ [r]⟩

/-- The two parties, from the moment the server has been called. -/
def link (p : Party σ ι ο) (script : List ι) : System (Link σ ι ο) Move where
  init s := s = ⟨script, [], p.start, p.opening, []⟩
  step := Step p

/-- All that the client is going to have received. -/
def outlook (p : Party σ ι ο) (s : Link σ ι ο) : List ο :=
  s.received ++ s.down ++ p.sends s.server (s.up ++ s.script)

/-- The moves that are left. -/
def remaining (p : Party σ ι ο) (s : Link σ ι ο) : ℕ :=
  2 * s.script.length + s.up.length + s.down.length + (p.sends s.server (s.up ++ s.script)).length

variable {p : Party σ ι ο} {script : List ι} {s s' : Link σ ι ο} {m : Move}
  {past : List (Entry (Link σ ι ο) Move)}

/-- No move changes what the client is going to have received. -/
lemma Step.outlook (st : Step p s m s') : outlook p s' = outlook p s := by
  cases st with
  | send => simp [Duplex.outlook]
  | serve => simp [Duplex.outlook, Party.sends]
  | deliver => simp [Duplex.outlook]

/-- Every move is one of those that were left. -/
lemma Step.remaining (st : Step p s m s') : remaining p s' + 1 = remaining p s := by
  cases st with
  | send =>
    simp only [Duplex.remaining, List.append_assoc, List.singleton_append, List.length_append,
      List.length_cons, List.length_nil]
    omega
  | serve =>
    simp only [Duplex.remaining, List.cons_append, Party.sends, List.length_append,
      List.length_cons]
    omega
  | deliver =>
    simp only [Duplex.remaining, List.length_cons]
    omega

/-- As long as moves are left, one of them can be made. -/
lemma exists_step (left : remaining p s ≠ 0) : ∃ m s', Step p s m s' := by
  obtain ⟨script, up, server, down, received⟩ := s
  cases script with
  | cons x script => exact ⟨_, _, .send⟩
  | nil =>
    cases up with
    | cons x up => exact ⟨_, _, .serve⟩
    | nil =>
      cases down with
      | cons r down => exact ⟨_, _, .deliver⟩
      | nil => exact absurd rfl left

/-- The outlook is the same in every state of a run. -/
lemma outlook_of_run (run : Run (link p script) past s) : outlook p s = p.answers script := by
  induction run with
  | init h =>
    cases h
    rfl
  | step _ st ih => exact st.outlook.trans ih

/-- The moves made and those left are the sends, the reactions and the deliveries of the script. -/
theorem length_of_run (run : Run (link p script) past s) :
    past.length + remaining p s = 2 * script.length + (p.answers script).length := by
  induction run with
  | init h =>
    cases h
    simp only [remaining, Party.answers, List.length_nil, List.nil_append, List.length_append]
    omega
  | step _ st ih =>
    rw [← ih, ← st.remaining, List.length_cons]
    omega

/-- The client receives the answers in order, and nothing else. -/
theorem received_prefix (run : Run (link p script) past s) : s.received <+: p.answers script := by
  rw [← outlook_of_run run, outlook, List.append_assoc]
  exact List.prefix_append _ _

/-- When no move is left the client has received all the answers. -/
theorem received_eq (run : Run (link p script) past s) (ended : remaining p s = 0) :
    s.received = p.answers script := by
  have none : s.down = [] ∧ p.sends s.server (s.up ++ s.script) = [] := by
    constructor <;>
    · apply List.eq_nil_of_length_eq_zero
      unfold remaining at ended
      omega
  rw [← outlook_of_run run, outlook, none.1, none.2, List.append_nil, List.append_nil]

/-- A run that cannot go on has come to its end. -/
theorem received_of_stuck (run : Run (link p script) past s) (stuck : ∀ m s', ¬ Step p s m s') :
    s.received = p.answers script := by
  apply received_eq run
  by_contra left
  obtain ⟨m, s', st⟩ := exists_step left
  exact stuck m s' st

end Duplex
