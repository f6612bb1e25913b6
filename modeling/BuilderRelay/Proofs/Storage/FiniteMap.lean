import BuilderRelay.Proofs.Storage.Datastore
import Mathlib.Data.Finmap

/-!
# The store is a finite map

A run of the store is a list of operations, between which the cache is told to fail and healed. The
same steps can be taken by a finite map from public keys to registrations that fails when the cache
does. From the empty cache and the empty map, all answers are the same: what ties a cache to a map
is that each key is found with the JSON of its registration, and that as many entries are there as
keys are bound.
-/

namespace BuilderRelay.Datastore

/-! ## Runs -/

inductive Operation where
  | set (r : Registration)
  | get (key : Bls.PublicKey)
  | count

inductive Step where
  | operate (o : Operation)
  | fail (m : CacheMethod) (script : FailureScript)
  | heal (m : CacheMethod)

inductive Answer where
  | stored
  | found (r : Option Registration)
  | counted (n : Nat)

/-- What is seen of an operation. -/
structure Reply where
  calls : List CacheCall
  result : Except Report Answer

/-- Something that operations act on, with failures scripted for it. -/
structure Machine (σ : Type) where
  perform : Operation → σ → σ × Reply
  rescript : (FailureScripts → FailureScripts) → σ → σ

namespace Machine

variable {σ τ : Type}

def step (m : Machine σ) : Step → σ → σ × List Reply
  | .operate o, s => ((m.perform o s).1, [(m.perform o s).2])
  | .fail method script, s => (m.rescript (·.fail method script) s, [])
  | .heal method, s => (m.rescript (·.heal method) s, [])

def run (m : Machine σ) : List Step → σ → σ × List Reply
  | [], s => (s, [])
  | step :: steps, s =>
      let next := m.step step s
      let later := m.run steps next.1
      (later.1, next.2 ++ later.2)

/-- A relation between states under which both machines do the same. -/
structure Simulation (m : Machine σ) (n : Machine τ) (R : σ → τ → Prop) : Prop where
  perform : ∀ o s t, R s t →
    (m.perform o s).2 = (n.perform o t).2 ∧ R (m.perform o s).1 (n.perform o t).1
  rescript : ∀ f s t, R s t → R (m.rescript f s) (n.rescript f t)

theorem Simulation.step {m : Machine σ} {n : Machine τ} {R : σ → τ → Prop}
    (h : Simulation m n R) (step : Step) {s : σ} {t : τ} (hR : R s t) :
    (m.step step s).2 = (n.step step t).2 ∧ R (m.step step s).1 (n.step step t).1 := by
  cases step with
  | operate o =>
      obtain ⟨hreply, hnext⟩ := h.perform o s t hR
      exact ⟨congrArg ([·]) hreply, hnext⟩
  | fail method script => exact ⟨rfl, h.rescript _ s t hR⟩
  | heal method => exact ⟨rfl, h.rescript _ s t hR⟩

theorem Simulation.run {m : Machine σ} {n : Machine τ} {R : σ → τ → Prop}
    (h : Simulation m n R) (steps : List Step) {s : σ} {t : τ} (hR : R s t) :
    (m.run steps s).2 = (n.run steps t).2 ∧ R (m.run steps s).1 (n.run steps t).1 := by
  induction steps generalizing s t with
  | nil => exact ⟨rfl, hR⟩
  | cons step steps ih =>
      obtain ⟨hreplies, hnext⟩ := h.step step hR
      obtain ⟨hlater, hlast⟩ := ih hnext
      exact ⟨congrArg₂ (· ++ ·) hreplies hlater, hlast⟩

end Machine

/-! ## The store and the map -/

def perform : Operation → Cache → Cache × Reply
  | .set r, c =>
      let outcome := set r c
      (outcome.cache, ⟨outcome.calls, outcome.result.map fun () => .stored⟩)
  | .get key, c =>
      let outcome := get key c
      (outcome.cache, ⟨outcome.calls, outcome.result.map .found⟩)
  | .count, c =>
      let outcome := count c
      (outcome.cache, ⟨outcome.calls, outcome.result.map .counted⟩)

/-- The store over a cache. -/
def overCache : Machine Cache where
  perform := perform
  rescript f c := { c with script := f c.script }

/-- A finite map that fails when the cache does. -/
structure Registry where
  bound : Finmap fun _ : Bls.PublicKey => Registration
  script : FailureScripts

namespace Registry

def empty : Registry := ⟨∅, .none⟩

/-- The one call of an operation. -/
def call : Operation → CacheCall
  | .set r => setCall r
  | .get key => .hget registrationKey (publicKeyField key)
  | .count => .hlen registrationKey

def failure : Operation → Report → Report
  | .set _, reason => reason.context "Failed to store validator registration"
  | _, reason => reason

def effect (bound : Finmap fun _ : Bls.PublicKey => Registration) :
    Operation → Finmap fun _ : Bls.PublicKey => Registration
  | .set r => bound.insert r.message.publicKey r
  | _ => bound

def answer (bound : Finmap fun _ : Bls.PublicKey => Registration) : Operation → Answer
  | .set _ => .stored
  | .get key => .found (bound.lookup key)
  | .count => .counted bound.keys.card

/-- An operation that fails changes nothing. -/
def perform (o : Operation) (g : Registry) : Registry × Reply :=
  match g.script.permit (call o).method with
  | .error reason => (g, ⟨[call o], .error (failure o reason)⟩)
  | .ok script => (⟨effect g.bound o, script⟩, ⟨[call o], .ok (answer g.bound o)⟩)

end Registry

/-- The operations on a finite map. -/
def ofMap : Machine Registry where
  perform := Registry.perform
  rescript f g := { g with script := f g.script }

/-! ## What ties a cache to a map -/

structure Represents (c : Cache) (g : Registry) : Prop where
  script : c.script = g.script
  lookup : ∀ key, c.lookup registrationKey (publicKeyField key) =
    (g.bound.lookup key).map fun r => Utf8.encode r.json
  length : c.length registrationKey = g.bound.keys.card

theorem represents_empty : Represents .empty .empty where
  script := rfl
  lookup _ := rfl
  length := rfl

theorem card_keys_insert (bound : Finmap fun _ : Bls.PublicKey => Registration)
    (key : Bls.PublicKey) (r : Registration) :
    (bound.insert key r).keys.card =
      bound.keys.card + if (bound.lookup key).isSome then 0 else 1 := by
  have hkeys : (bound.insert key r).keys = insert key bound.keys := by
    ext k
    simp [Finmap.mem_keys]
  rw [hkeys]
  split
  · rename_i h
    rw [Finset.insert_eq_of_mem (Finmap.mem_keys.mpr (Finmap.lookup_isSome.mp h))]
    rfl
  · rename_i h
    exact Finset.card_insert_of_notMem fun hmem =>
      h (Finmap.lookup_isSome.mpr (Finmap.mem_keys.mp hmem))

variable {c : Cache} {g : Registry}

theorem Represents.rescript (h : Represents c g) (script : FailureScripts) :
    Represents { c with script } { g with script } :=
  ⟨rfl, h.lookup, h.length⟩

theorem Represents.write (h : Represents c g) (r : Registration) :
    Represents (write c r) { g with bound := g.bound.insert r.message.publicKey r } where
  script := h.script
  lookup key := by
    rw [lookup_write]
    split
    · rename_i hkey
      rw [← hkey, Finmap.lookup_insert]
      rfl
    · rename_i hkey
      rw [Finmap.lookup_insert_of_ne _ (Ne.symm hkey)]
      exact h.lookup key
  length := by
    rw [length_write, h.length, h.lookup, Option.isSome_map]
    exact (card_keys_insert g.bound r.message.publicKey r).symm

theorem Represents.perform (h : Represents c g) (o : Operation) :
    (perform o c).2 = (g.perform o).2 ∧ Represents (perform o c).1 (g.perform o).1 := by
  cases hp : g.script.permit (Registry.call o).method with
  | error reason =>
      simp only [Registry.perform, hp]
      rw [← h.script] at hp
      cases o with
      | set r =>
          simp only [Datastore.perform, set_of_error hp]
          exact ⟨rfl, h⟩
      | get key =>
          simp only [Datastore.perform, get_of_error hp]
          exact ⟨rfl, h⟩
      | count =>
          simp only [Datastore.perform, count_of_error hp]
          exact ⟨rfl, h⟩
  | ok script =>
      simp only [Registry.perform, hp]
      rw [← h.script] at hp
      cases o with
      | set r =>
          simp only [Datastore.perform, set_of_ok hp]
          exact ⟨rfl, (h.rescript script).write r⟩
      | get key =>
          simp only [Datastore.perform, get_of_ok hp, h.lookup, decodeFound_map]
          exact ⟨rfl, h.rescript script⟩
      | count =>
          simp only [Datastore.perform, count_of_ok hp, h.length]
          exact ⟨rfl, h.rescript script⟩

theorem simulation : Machine.Simulation overCache ofMap Represents where
  perform o _ _ h := h.perform o
  rescript f c g h := by
    change Represents { c with script := f c.script } { g with script := f g.script }
    rw [h.script]
    exact h.rescript _

/-! ## The refinement -/

theorem length_calls_of_mem_run (steps : List Step) (g : Registry) {reply : Reply}
    (h : reply ∈ (ofMap.run steps g).2) : reply.calls.length = 1 := by
  induction steps generalizing g with
  | nil => cases h
  | cons step steps ih =>
      rcases List.mem_append.mp h with hnow | hlater
      · cases step with
        | operate o =>
            rw [List.mem_singleton.mp hnow]
            change (g.perform o).2.calls.length = 1
            unfold Registry.perform
            split <;> rfl
        | fail | heal => cases hnow
      · exact ih _ hlater

/-- From the start, the store answers as a finite map does that fails when the cache does. Every
answer takes one call, and what is found under a key is the JSON of the registration bound to it. -/
theorem run_eq_run_ofMap (steps : List Step) :
    (overCache.run steps .empty).2 = (ofMap.run steps .empty).2 ∧
    (∀ reply ∈ (overCache.run steps .empty).2, reply.calls.length = 1) ∧
    ∀ key, ((overCache.run steps .empty).1.lookup registrationKey (publicKeyField key)).map
      decodeStored = ((ofMap.run steps .empty).1.bound.lookup key).map .ok := by
  obtain ⟨hreplies, hrepresents⟩ := simulation.run steps represents_empty
  refine ⟨hreplies, fun reply hreply => ?_, fun key => ?_⟩
  · rw [hreplies] at hreply
    exact length_calls_of_mem_run steps .empty hreply
  · rw [hrepresents.lookup]
    cases (ofMap.run steps .empty).1.bound.lookup key with
    | none => rfl
    | some r => exact congrArg some (decodeStored_json r)

end BuilderRelay.Datastore
