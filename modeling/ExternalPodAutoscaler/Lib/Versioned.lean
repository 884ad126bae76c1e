/-
Objects with versions, and clients that change them without a lock.

A register holds at most one object.  Every write gives it a new version, and a write that names
the version of another object is refused, so a client may read the object, make something of it
and write it back later: the write takes effect only if the object is still the one that was read
(`Register.object_of_replace`).

A `Protocol` says what clients create, what they make of the object they have read, and how
others edit it.  `Protocol.system` interleaves any number of clients with each other and with edits
and deletions; reads and writes may fail, and a write that has failed may have taken effect.  The
main results are `replay_log`: the object is what the operations that took effect make of it one
after the other, so that no edit is lost; and `exists_of_finished` and `finished_ok_of_found`:
without failures and deletions the object exists once a client has finished, and a client that
starts then succeeds.
-/
import Mathlib.Data.List.Basic
import Mathlib.Tactic.Common
import ExternalPodAutoscaler.Lib.Cells
import ExternalPodAutoscaler.Lib.Transition

namespace ExternalPodAutoscaler.Lib

/-- An object and its version. -/
structure Versioned (α : Type*) where
  value : α
  version : ℕ

/-- At most one object; a version stands for one of the objects that there have been. -/
structure Register (α : Type*) where
  object : Option (Versioned α)
  past : List (Versioned α)
  /-- The next version. -/
  fresh : ℕ
  object_mem : ∀ o, object = some o → o ∈ past
  version_lt : ∀ o ∈ past, o.version < fresh
  version_inj : ∀ o ∈ past, ∀ o' ∈ past, o.version = o'.version → o = o'

namespace Register

variable {α : Type*}

/-- No object yet. -/
def empty : Register α where
  object := none
  past := []
  fresh := 0
  object_mem := by rintro o ⟨⟩
  version_lt := by simp
  version_inj := by simp

/-- A write that takes effect. -/
def put (r : Register α) (x : α) : Register α where
  object := some ⟨x, r.fresh⟩
  past := ⟨x, r.fresh⟩ :: r.past
  fresh := r.fresh + 1
  object_mem := by
    rintro o ⟨⟩
    exact List.mem_cons_self
  version_lt := by
    intro o ho
    rcases List.mem_cons.1 ho with rfl | ho
    · exact Nat.lt_succ_self _
    · exact Nat.lt_succ_of_lt (r.version_lt o ho)
  version_inj := by
    intro o ho o' ho' heq
    rcases List.mem_cons.1 ho with rfl | ho <;> rcases List.mem_cons.1 ho' with rfl | ho'
    · rfl
    · exact absurd heq (Nat.ne_of_gt (r.version_lt o' ho'))
    · exact absurd heq (Nat.ne_of_lt (r.version_lt o ho))
    · exact r.version_inj o ho o' ho' heq

/-- The object is created, unless there is one. -/
def create (r : Register α) (x : α) : Option (Register α) :=
  if r.object.isNone then some (r.put x) else none

/-- The object is replaced, if it has the version. -/
def replace (r : Register α) (version : ℕ) (x : α) : Option (Register α) :=
  r.object.bind fun o => if o.version = version then some (r.put x) else none

/-- The object is deleted. -/
def delete (r : Register α) : Register α :=
  { r with object := none, object_mem := by rintro o ⟨⟩ }

variable {r r' : Register α} {o : Versioned α} {x : α} {version : ℕ}

@[simp] lemma object_put (r : Register α) (x : α) : (r.put x).object = some ⟨x, r.fresh⟩ := rfl

@[simp] lemma object_delete (r : Register α) : r.delete.object = none := rfl

@[simp] lemma past_put (r : Register α) (x : α) : (r.put x).past = ⟨x, r.fresh⟩ :: r.past := rfl

lemma create_eq_some_iff : r.create x = some r' ↔ r.object = none ∧ r.put x = r' := by
  rw [create, Option.ite_none_right_eq_some, Option.isNone_iff_eq_none, Option.some.injEq]

lemma create_eq_none_iff : r.create x = none ↔ r.object ≠ none := by
  rw [create, ite_eq_right_iff, Option.isNone_iff_eq_none]
  simp

lemma replace_eq_some_iff : r.replace version x = some r' ↔
    ∃ o, r.object = some o ∧ o.version = version ∧ r.put x = r' := by
  simp only [replace, Option.bind_eq_some_iff, Option.ite_none_right_eq_some, Option.some.injEq]

/-- **A write that takes effect replaces what was read.** -/
theorem object_of_replace (hread : o ∈ r.past) (h : r.replace o.version x = some r') :
    r.object = some o := by
  obtain ⟨o', ho', hversion, -⟩ := replace_eq_some_iff.1 h
  rw [ho', r.version_inj o' (r.object_mem o' ho') o hread hversion]

end Register

/-! ### Clients -/

/-- What the clients of a register do. -/
structure Protocol (α ω δ : Type*) where
  /-- What a client creates. -/
  initial : ω → α
  /-- What it makes of the object that it has read. -/
  merge : ω → α → α
  /-- What others make of the object. -/
  edit : δ → α → α
  /-- A client takes a failed read for the absence of the object. -/
  createsAfterError : Bool

inductive ClientStage (α : Type*) where
  | started
  | found (o : Versioned α)
  | absent
  | finished (ok : Bool)

structure Client (α ω : Type*) where
  wanted : ω
  /-- There was an object when the client started. -/
  found : Bool
  stage : ClientStage α

/-- An operation that has taken effect. -/
inductive Operation (ω δ : Type*) where
  | create (wanted : ω)
  | merge (wanted : ω)
  | edit (d : δ)
  | delete

/-- The object, the clients, and the operations that have taken effect. -/
structure Clients (α ω δ : Type*) where
  register : Register α
  clients : List (Client α ω)
  log : List (Operation ω δ)

inductive ClientEvent (ω δ : Type*) where
  | start (wanted : ω)
  | read (i : ℕ)
  | readFails (i : ℕ)
  | write (i : ℕ)
  /-- The client learns that its write has failed, whether or not it has taken effect. -/
  | writeFails (i : ℕ) (applied : Bool)
  | edit (d : δ)
  | delete

namespace Protocol

variable {α ω δ : Type*} (P : Protocol α ω δ)

/-- What an operation makes of the object. -/
def apply : Option α → Operation ω δ → Option α
  | _, .create wanted => some (P.initial wanted)
  | x, .merge wanted => x.map (P.merge wanted)
  | x, .edit d => x.map (P.edit d)
  | _, .delete => none

/-- The object after the operations, one after the other. -/
def replay (log : List (Operation ω δ)) : Option α := log.foldl P.apply none

/-- The write of a client that has read, if it takes effect. -/
def send (r : Register α) (wanted : ω) :
    ClientStage α → Option (Register α × Operation ω δ)
  | .found o => (r.replace o.version (P.merge wanted o.value)).map fun r => (r, .merge wanted)
  | .absent => (r.create (P.initial wanted)).map fun r => (r, .create wanted)
  | _ => none

end Protocol

namespace Clients

variable {α ω δ : Type*}

/-- No object and no client. -/
def new : Clients α ω δ := ⟨.empty, [], []⟩

/-- A client goes on. -/
def setStage (w : Clients α ω δ) (i : ℕ) (stage : ClientStage α) : Clients α ω δ :=
  { w with clients := w.clients.modify i fun c => { c with stage := stage } }

/-- A write, or none if it is refused. -/
def written (w : Clients α ω δ) : Option (Register α × Operation ω δ) → Clients α ω δ
  | some (r, op) => { w with register := r, log := w.log ++ [op] }
  | none => w

end Clients

/-- Clients, edits and deletions in any order. -/
def Protocol.system {α ω δ : Type*} (P : Protocol α ω δ) :
    System (Clients α ω δ) (ClientEvent ω δ) where
  init w := w = .new
  step w
    | .start wanted =>
      some { w with clients := w.clients ++ [⟨wanted, w.register.object.isSome, .started⟩] }
    | .read i => w.clients[i]?.bind fun c =>
      match c.stage, w.register.object with
      | .started, some o => some (w.setStage i (.found o))
      | .started, none => some (w.setStage i .absent)
      | _, _ => none
    | .readFails i => w.clients[i]?.bind fun c =>
      match c.stage with
      | .started => some (w.setStage i (if P.createsAfterError then .absent else .finished false))
      | _ => none
    | .write i => w.clients[i]?.bind fun c =>
      let sent := P.send w.register c.wanted c.stage
      match c.stage with
      -- a refused update is taken for a needless one
      | .found _ => some ((w.written sent).setStage i (.finished true))
      | .absent => some ((w.written sent).setStage i (.finished sent.isSome))
      | _ => none
    | .writeFails i applied => w.clients[i]?.bind fun c =>
      let sent := if applied then P.send w.register c.wanted c.stage else none
      match c.stage with
      | .found _ => some ((w.written sent).setStage i (.finished true))
      | .absent => some ((w.written sent).setStage i (.finished false))
      | _ => none
    | .edit d => w.register.object.map fun o =>
      { w with register := w.register.put (P.edit d o.value), log := w.log ++ [.edit d] }
    | .delete => some { w with register := w.register.delete, log := w.log ++ [.delete] }

/-! ### The object is what the operations make of it -/

section Serial

variable {α ω δ : Type*} {P : Protocol α ω δ} {w w' : Clients α ω δ} {i : ℕ}

/-- The value of the object. -/
def Register.value (r : Register α) : Option α := r.object.map Versioned.value

lemma Protocol.replay_concat (log : List (Operation ω δ)) (op : Operation ω δ) :
    P.replay (log ++ [op]) = P.apply (P.replay log) op := by
  rw [Protocol.replay, List.foldl_append]
  rfl

/-- A write that takes effect is an operation on the object that there is. -/
lemma Protocol.value_of_send {r r' : Register α} {wanted : ω} {stage : ClientStage α}
    {op : Operation ω δ} (hread : ∀ o, stage = .found o → o ∈ r.past)
    (h : P.send r wanted stage = some (r', op)) :
    r'.value = P.apply r.value op ∧ ∀ o ∈ r.past, o ∈ r'.past := by
  cases stage with
  | started | finished ok => cases h
  | found o =>
      obtain ⟨r₁, hreplace, heq⟩ := Option.map_eq_some_iff.1 h
      obtain ⟨rfl, rfl⟩ := Prod.mk.inj heq
      have hobject := Register.object_of_replace (hread o rfl) hreplace
      obtain ⟨-, -, -, rfl⟩ := Register.replace_eq_some_iff.1 hreplace
      refine ⟨?_, fun o' ho' => List.mem_cons_of_mem _ ho'⟩
      rw [Register.value, Register.value, hobject]
      rfl
  | absent =>
      obtain ⟨r₁, hcreate, heq⟩ := Option.map_eq_some_iff.1 h
      obtain ⟨rfl, rfl⟩ := Prod.mk.inj heq
      obtain ⟨-, rfl⟩ := Register.create_eq_some_iff.1 hcreate
      exact ⟨rfl, fun o' ho' => List.mem_cons_of_mem _ ho'⟩

namespace Clients

/-- The object is what the operations make of it, and what clients have read has been there. -/
structure Serial (P : Protocol α ω δ) (w : Clients α ω δ) : Prop where
  value : w.register.value = P.replay w.log
  read : ∀ c ∈ w.clients, ∀ o, c.stage = .found o → o ∈ w.register.past

/-- An operation takes effect. -/
lemma Serial.operation (h : w.Serial P) {r : Register α} {op : Operation ω δ}
    (hvalue : r.value = P.apply w.register.value op)
    (hpast : ∀ o ∈ w.register.past, o ∈ r.past) :
    ({ w with register := r, log := w.log ++ [op] } : Clients α ω δ).Serial P := by
  refine ⟨?_, fun c hc o ho => hpast o (h.read c hc o ho)⟩
  rw [P.replay_concat, ← h.value]
  exact hvalue

/-- A client goes on. -/
lemma Serial.setStage (h : w.Serial P) {stage : ClientStage α}
    (hread : ∀ o, stage = .found o → o ∈ w.register.past) : (w.setStage i stage).Serial P := by
  refine ⟨h.value, fun c hc o ho => ?_⟩
  obtain ⟨j, hj⟩ := List.mem_iff_getElem?.1 hc
  rcases getElem?_modify_cases hj with ⟨-, old, -, rfl⟩ | ⟨-, hold⟩
  · exact hread o ho
  · exact h.read c (List.mem_of_getElem? hold) o ho

/-- A client writes. -/
lemma Serial.write (h : w.Serial P) {c : Client α ω} (hc : c ∈ w.clients) {ok : Bool}
    {sent : Option (Register α × Operation ω δ)}
    (hsent : ∀ x, sent = some x → P.send w.register c.wanted c.stage = some x) :
    ((w.written sent).setStage i (.finished ok)).Serial P := by
  refine Serial.setStage ?_ (by rintro o ⟨⟩)
  rcases sent with _ | ⟨r, op⟩
  · exact h
  · obtain ⟨hvalue, hpast⟩ := Protocol.value_of_send (h.read c hc) (hsent _ rfl)
    exact h.operation hvalue hpast

lemma Serial.step {e : ClientEvent ω δ} (h : w.Serial P) (hs : P.system.step w e = some w') :
    w'.Serial P := by
  cases e with
  | start wanted =>
      obtain rfl := Option.some.inj hs
      refine ⟨h.value, fun c hc o ho => ?_⟩
      rcases List.mem_append.1 hc with hc | hc
      · exact h.read c hc o ho
      · obtain rfl := List.mem_singleton.1 hc
        cases ho
  | read i =>
      obtain ⟨c, -, hs⟩ := Option.bind_eq_some_iff.1 hs
      split at hs
      · rename_i o _ hobject
        obtain rfl := Option.some.inj hs
        refine h.setStage ?_
        rintro _ ⟨⟩
        exact w.register.object_mem o hobject
      · obtain rfl := Option.some.inj hs
        exact h.setStage (by rintro o ⟨⟩)
      · cases hs
  | readFails i =>
      obtain ⟨c, -, hs⟩ := Option.bind_eq_some_iff.1 hs
      split at hs
      · obtain rfl := Option.some.inj hs
        refine h.setStage fun o ho => ?_
        split at ho <;> cases ho
      · cases hs
  | write i =>
      obtain ⟨c, hc, hs⟩ := Option.bind_eq_some_iff.1 hs
      split at hs
      · obtain rfl := Option.some.inj hs
        exact h.write (List.mem_of_getElem? hc) fun _ hsent => hsent
      · obtain rfl := Option.some.inj hs
        exact h.write (List.mem_of_getElem? hc) fun _ hsent => hsent
      · cases hs
  | writeFails i applied =>
      obtain ⟨c, hc, hs⟩ := Option.bind_eq_some_iff.1 hs
      have hsent : ∀ x, (if applied then P.send w.register c.wanted c.stage else none) = some x →
          P.send w.register c.wanted c.stage = some x := fun x hx =>
        (Option.ite_none_right_eq_some.1 hx).2
      dsimp only at hs
      generalize (if applied then P.send w.register c.wanted c.stage else none) = sent at hs hsent
      split at hs
      · obtain rfl := Option.some.inj hs
        exact h.write (List.mem_of_getElem? hc) hsent
      · obtain rfl := Option.some.inj hs
        exact h.write (List.mem_of_getElem? hc) hsent
      · cases hs
  | edit d =>
      obtain ⟨o, hobject, rfl⟩ := Option.map_eq_some_iff.1 hs
      refine h.operation ?_ fun o' ho' => List.mem_cons_of_mem _ ho'
      rw [Register.value, Register.value, hobject]
      rfl
  | delete =>
      obtain rfl := Option.some.inj hs
      exact h.operation rfl fun o ho => ho

end Clients

/-- **No write is lost.** In every run the object is what the operations that have taken effect
make of it, one after the other. -/
theorem Protocol.replay_log {ok : Clients α ω δ → ClientEvent ω δ → Prop}
    (h : P.system.Reachable ok w) : w.register.value = P.replay w.log := by
  have hserial : w.Serial P := by
    refine h.invariant ?_ fun s e s' hI _ hs => hI.step hs
    rintro s rfl
    exact ⟨rfl, by simp [Clients.new]⟩
  exact hserial.value

end Serial

/-! ### How clients end -/

section Ends

variable {α ω δ : Type*} {P : Protocol α ω δ} {w w' : Clients α ω δ} {i : ℕ}

/-- Nothing fails, and the object is not deleted. -/
def Clients.Healthy (_ : Clients α ω δ) : ClientEvent ω δ → Prop
  | .readFails _ | .writeFails _ _ | .delete => False
  | _ => True

/-- What is known about a client, given whether there is an object. -/
def Client.Sees (isSome : Bool) (c : Client α ω) : Prop :=
  (c.found = true → isSome = true) ∧
    match c.stage with
    | .started => True
    | .absent => c.found = false
    | .found _ => isSome = true
    | .finished ok => isSome = true ∧ (c.found = true → ok = true)

namespace Clients

/-- The clients know of the object. -/
def AllSee (w : Clients α ω δ) : Prop := ∀ c ∈ w.clients, c.Sees w.register.object.isSome

lemma AllSee.setStage (h : w.AllSee) {c : Client α ω} (hc : w.clients[i]? = some c)
    {stage : ClientStage α}
    (hsees : ({ c with stage := stage } : Client α ω).Sees w.register.object.isSome) :
    (w.setStage i stage).AllSee := by
  intro c' hc'
  obtain ⟨j, hj⟩ := List.mem_iff_getElem?.1 hc'
  rcases getElem?_modify_cases hj with ⟨rfl, old, hold, rfl⟩ | ⟨-, hold⟩
  · obtain rfl := Option.some.inj (hc.symm.trans hold)
    exact hsees
  · exact h c' (List.mem_of_getElem? hold)

/-- An object appears. -/
lemma AllSee.of_isSome (h : w.AllSee) {r : Register α} {log : List (Operation ω δ)}
    (hr : r.object.isSome = true) :
    ({ w with register := r, log := log } : Clients α ω δ).AllSee := by
  intro c hc
  obtain ⟨hfound, hstage⟩ := h c hc
  refine ⟨fun _ => hr, ?_⟩
  rcases hcase : c.stage with _ | o | _ | ok <;> simp only [hcase] at hstage ⊢
  · exact hr
  · exact hstage
  · exact ⟨hr, hstage.2⟩

/-- There is an object once a client has written. -/
lemma AllSee.write (h : w.AllSee) {c : Client α ω} (hc : w.clients[i]? = some c) {ok : Bool}
    (hsent : ∀ r op, P.send w.register c.wanted c.stage = some (r, op) → r.object.isSome = true)
    (hrefused : P.send w.register c.wanted c.stage = none → w.register.object.isSome = true)
    (hok : c.found = true → ok = true) :
    ((w.written (P.send w.register c.wanted c.stage)).setStage i (.finished ok)).AllSee := by
  rcases hsend : P.send w.register c.wanted c.stage with _ | ⟨r, op⟩
  · exact h.setStage hc ⟨fun _ => hrefused hsend, hrefused hsend, hok⟩
  · exact (h.of_isSome (hsent r op hsend)).setStage hc
      ⟨fun _ => hsent r op hsend, hsent r op hsend, hok⟩

lemma AllSee.step {e : ClientEvent ω δ} (h : w.AllSee) (hok : w.Healthy e)
    (hs : P.system.step w e = some w') : w'.AllSee := by
  cases e with
  | readFails i | writeFails i applied | delete => exact absurd hok id
  | start wanted =>
      obtain rfl := Option.some.inj hs
      intro c hc
      rcases List.mem_append.1 hc with hc | hc
      · exact h c hc
      · rw [List.mem_singleton.1 hc]
        exact ⟨fun hfound => hfound, trivial⟩
  | read i =>
      obtain ⟨c, hc, hs⟩ := Option.bind_eq_some_iff.1 hs
      have hsees := h c (List.mem_of_getElem? hc)
      split at hs
      · rename_i o _ hobject
        obtain rfl := Option.some.inj hs
        have hsome : w.register.object.isSome = true := by rw [hobject, Option.isSome_some]
        exact h.setStage hc ⟨fun _ => hsome, hsome⟩
      · rename_i _ hobject
        obtain rfl := Option.some.inj hs
        refine h.setStage hc ⟨hsees.1, Bool.eq_false_iff.2 fun hfound => ?_⟩
        simpa [hobject] using hsees.1 hfound
      · cases hs
  | write i =>
      obtain ⟨c, hc, hs⟩ := Option.bind_eq_some_iff.1 hs
      have hsees := (h c (List.mem_of_getElem? hc)).2
      dsimp only at hs
      rcases hstage : c.stage with _ | o | _ | ok
      · simp [hstage] at hs
      · rw [hstage] at hsees
        have hw' : (w.written (P.send w.register c.wanted c.stage)).setStage i (.finished true) =
            w' := by
          simpa [hstage] using hs
        rw [← hw']
        refine h.write hc ?_ (fun _ => hsees) fun _ => rfl
        rw [hstage]
        intro r op hsend
        obtain ⟨r', hreplace, heq⟩ := Option.map_eq_some_iff.1 hsend
        obtain ⟨rfl, -⟩ := Prod.mk.inj heq
        obtain ⟨-, -, -, rfl⟩ := Register.replace_eq_some_iff.1 hreplace
        rfl
      · rw [hstage] at hsees
        have hw' : (w.written (P.send w.register c.wanted c.stage)).setStage i
            (.finished (P.send w.register c.wanted c.stage).isSome) = w' := by
          simpa [hstage] using hs
        rw [← hw']
        refine h.write hc ?_ ?_ fun hfound => absurd (hsees.symm.trans hfound) (by simp)
        · rw [hstage]
          intro r op hsend
          obtain ⟨r', hcreate, heq⟩ := Option.map_eq_some_iff.1 hsend
          obtain ⟨rfl, -⟩ := Prod.mk.inj heq
          obtain ⟨-, rfl⟩ := Register.create_eq_some_iff.1 hcreate
          rfl
        · rw [hstage]
          intro hsend
          exact Option.isSome_iff_ne_none.2
            (Register.create_eq_none_iff.1 (Option.map_eq_none_iff.1 hsend))
      · simp [hstage] at hs
  | edit d =>
      obtain ⟨o, -, rfl⟩ := Option.map_eq_some_iff.1 hs
      exact h.of_isSome rfl

end Clients

/-- **How clients end.** If nothing fails and the object is not deleted, there is an object once a
client has finished, and a client that starts when there is one ends well. -/
theorem Protocol.ends_well (h : P.system.Reachable Clients.Healthy w) {c : Client α ω}
    (hc : c ∈ w.clients) {ok : Bool} (hstage : c.stage = .finished ok) :
    w.register.object.isSome = true ∧ (c.found = true → ok = true) := by
  have hsees : w.AllSee := by
    refine h.invariant ?_ fun s e s' hI hok hs => hI.step hok hs
    rintro s rfl c hc
    cases hc
  have hcase := (hsees c hc).2
  rwa [hstage] at hcase

namespace Clients

/-- A client has ended well if there is an object. -/
def SomeOk (w : Clients α ω δ) : Prop :=
  w.register.object.isSome = true → ∃ c ∈ w.clients, c.stage = .finished true

/-- Clients that have finished do not go on. -/
lemma exists_ok_setStage {stage : ClientStage α} {c : Client α ω} (hc : w.clients[i]? = some c)
    (hgoes : ∀ ok, c.stage ≠ .finished ok) (h : ∃ c ∈ w.clients, c.stage = .finished true) :
    ∃ c ∈ (w.setStage i stage).clients, c.stage = .finished true := by
  obtain ⟨c', hc', hstage⟩ := h
  obtain ⟨j, hj⟩ := List.mem_iff_getElem?.1 hc'
  have hne : i ≠ j := by
    rintro rfl
    obtain rfl := Option.some.inj (hc.symm.trans hj)
    exact hgoes true hstage
  have hsame := getElem?_modify_of_some hj (fun c => { c with stage := stage }) i
  rw [if_neg hne] at hsame
  exact ⟨c', List.mem_of_getElem? hsame, hstage⟩

lemma exists_ok_finished {c : Client α ω} (hc : w.clients[i]? = some c) :
    ∃ c ∈ (w.setStage i (.finished true)).clients, c.stage = .finished true := by
  have hsame := getElem?_modify_of_some hc (fun c => { c with stage := .finished true }) i
  rw [if_pos rfl] at hsame
  exact ⟨_, List.mem_of_getElem? hsame, rfl⟩

lemma SomeOk.step {e : ClientEvent ω δ} (h : w.SomeOk) (hok : w.Healthy e)
    (hs : P.system.step w e = some w') : w'.SomeOk := by
  cases e with
  | readFails i | writeFails i applied | delete => exact absurd hok id
  | start wanted =>
      obtain rfl := Option.some.inj hs
      intro hsome
      obtain ⟨c, hc, hstage⟩ := h hsome
      exact ⟨c, List.mem_append_left _ hc, hstage⟩
  | read i =>
      obtain ⟨c, hc, hs⟩ := Option.bind_eq_some_iff.1 hs
      split at hs
      · rename_i hstage _
        obtain rfl := Option.some.inj hs
        exact fun hsome => exists_ok_setStage hc (by simp [hstage]) (h hsome)
      · rename_i hstage _
        obtain rfl := Option.some.inj hs
        exact fun hsome => exists_ok_setStage hc (by simp [hstage]) (h hsome)
      · cases hs
  | write i =>
      obtain ⟨c, hc, hs⟩ := Option.bind_eq_some_iff.1 hs
      have hclients : ∀ sent, (w.written sent).clients = w.clients := by
        rintro (_ | ⟨r, op⟩) <;> rfl
      dsimp only at hs
      split at hs
      · obtain rfl := Option.some.inj hs
        exact fun _ => exists_ok_finished ((hclients _).symm ▸ hc)
      · rename_i hstage
        obtain rfl := Option.some.inj hs
        rcases hsend : P.send w.register c.wanted c.stage with _ | ⟨r, op⟩
        · exact fun hsome => exists_ok_setStage hc (by simp [hstage]) (h hsome)
        · exact fun _ => exists_ok_finished hc
      · cases hs
  | edit d =>
      obtain ⟨o, hobject, rfl⟩ := Option.map_eq_some_iff.1 hs
      exact fun _ => h (by rw [hobject, Option.isSome_some])

end Clients

/-- **One client ends well.** If nothing fails and the object is not deleted, there is an object
only if a client has ended well. -/
theorem Protocol.exists_ok (h : P.system.Reachable Clients.Healthy w)
    (hsome : w.register.object.isSome = true) : ∃ c ∈ w.clients, c.stage = .finished true := by
  have hok : w.SomeOk := by
    refine h.invariant ?_ fun s e s' hI hok hs => hI.step hok hs
    rintro s rfl hsome
    cases hsome
  exact hok hsome

end Ends

end ExternalPodAutoscaler.Lib
