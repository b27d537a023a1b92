import AgentOperator.Proofs.Conversations
import AgentOperator.Proofs.Retention

/-!
AgentOperator.Proofs.Atomicity — bringing one component to the spec is one step.

Against a store that answers anything at all, the component's object is read once, and
after that there is at most one write. `Applies` lists what can be said on the way, and
what one step is allowed to do (`OneStep`) is read off the list. Where the object is
deleted, what is said is `OneDeletion`.

A write names the key that the object names itself. That is the component's key only as
far as the store answers what it was asked for, and the owner setter leaves the name
alone (`writes_other_key`).
-/

namespace AgentOperator

/-! ## What is said to a store -/

namespace Exchange

variable (e : Exchange Dataplane.outside)

/-- The call to the store, where it is one. -/
def call? : Option Store.Call :=
  match e.request with
  | .store call => some call
  | _ => none

def reads : Bool := e.call?.any (!·.isWrite)

def writes : Bool := e.call?.any (·.isWrite)

def succeeded : Bool :=
  match (e.reply : Except Error e.request.Result) with
  | .ok _ => true
  | .error _ => false

end Exchange

namespace Dataplane

open Kube (Object ObjectKey ObjectMeta)
open Store (Call)

namespace Task

variable {α : Type} {log : List (Exchange outside)}

theorem converses_ask_iff {r : Request} {reply : Except Error r.Result} :
    (ask r).run.Converses log reply ↔ log = [⟨r, reply⟩] :=
  Script.converses_request_iff

theorem converses_ofExcept_iff {x r : Except Error α} :
    (ofExcept x).run.Converses log r ↔ log = [] ∧ r = x :=
  Script.converses_done_iff

/-- A task that asks one thing first ends there or goes on with what it was told. -/
theorem converses_ask_bind_iff {r : Request} {k : r.Result → Task α} {result : Except Error α} :
    (ask r >>= k).run.Converses log result ↔
      (∃ e, log = [⟨r, .error e⟩] ∧ result = .error e) ∨
        ∃ a rest, log = ⟨r, .ok a⟩ :: rest ∧ (k a).run.Converses rest result := by
  rw [Attempt.converses_bind_iff]
  constructor
  · rintro (⟨e, hlog, rfl⟩ | ⟨before, after, a, rfl, hbefore, hafter⟩)
    · exact .inl ⟨e, converses_ask_iff.1 hlog, rfl⟩
    · cases converses_ask_iff.1 hbefore
      exact .inr ⟨a, after, rfl, hafter⟩
  · rintro (⟨e, rfl, rfl⟩ | ⟨a, rest, rfl, hrest⟩)
    · exact .inl ⟨e, converses_ask_iff.2 rfl, rfl⟩
    · exact .inr ⟨[_], rest, a, rfl, converses_ask_iff.2 rfl, hrest⟩

end Task

variable {c : Component} {s : Surroundings} {spec : Agent.Spec} {opts : ApplyOptions}
  {log asked : List (Exchange outside)} {found : Option Object} {o o₁ : Object}

/-! ## The object a component asks for -/

/-- What a component makes of an object, and what it asks for that: only the enforcer's
secret asks for something, which is a certificate. An object that is no secret it refuses
without asking. -/
inductive Component.Makes (c : Component) (s : Surroundings) (spec : Agent.Spec) (o : Object) :
    List (Exchange outside) → Except Error Object → Prop where
  | unasked (hc : c ≠ .enforcerTls) : Makes c s spec o [] (c.mutate s spec o)
  | refused (hc : c = .enforcerTls) (hkind : o.kind ≠ .secret) :
    Makes c s spec o [] (.error (.unexpectedKind .secret o.kind))
  | asked (hc : c = .enforcerTls) (hkind : o.kind = .secret)
      (issued : Except Error TlsMaterial) :
    Makes c s spec o [⟨.issueTls (enforcerServiceKey spec), issued⟩]
      (issued >>= fun tls => c.mutate { s with issued := .ok tls } spec o)

theorem Component.makes_of_converses {r : Except Error Object}
    (h : (c.desired s spec o).run.Converses log r) : c.Makes s spec o log r := by
  by_cases htls : c = .enforcerTls
  · by_cases hkind : o.kind = .secret
    · rw [desired_of_secret htls hkind, Task.converses_ask_bind_iff] at h
      rcases h with ⟨e, rfl, rfl⟩ | ⟨tls, rest, rfl, hrest⟩
      · exact .asked htls hkind (.error e)
      · obtain ⟨rfl, rfl⟩ := Task.converses_ofExcept_iff.1 hrest
        exact .asked htls hkind (.ok tls)
    · rw [desired_of_not_secret htls hkind] at h
      obtain ⟨rfl, rfl⟩ := Task.converses_ofExcept_iff.1 h
      exact .refused htls hkind
  · rw [desired_of_ne htls] at h
    obtain ⟨rfl, rfl⟩ := Task.converses_ofExcept_iff.1 h
    exact .unasked htls

/-- Nothing is asked of the store. -/
theorem Component.Makes.call?_eq_none {r : Except Error Object} (h : c.Makes s spec o log r) :
    ∀ e ∈ log, e.call? = none := by
  intro e he
  cases h with
  | unasked hc => cases he
  | refused hc hkind => cases he
  | asked hc hkind issued =>
    cases List.mem_singleton.1 he
    rfl

/-- What is made is made by the component's mutation. -/
theorem Component.Makes.mutate (h : c.Makes s spec o log (.ok o₁)) :
    ∃ issued, c.mutate { s with issued } spec o = .ok o₁ := by
  have hmade : ∀ {r}, c.Makes s spec o log r → r = .ok o₁ →
      ∃ issued, c.mutate { s with issued } spec o = .ok o₁ := by
    intro r h hr
    cases h with
    | unasked hc => exact ⟨s.issued, hr⟩
    | refused hc hkind => cases hr
    | asked hc hkind issued =>
      obtain ⟨tls, -, hmutate⟩ := Except.bind_eq_ok.1 hr
      exact ⟨.ok tls, hmutate⟩
  exact hmade h rfl

/-- An object that is made anew gets the component's key; one that was found keeps its
own. -/
def Component.keyed (c : Component) (spec : Agent.Spec) (found : Option Object) (o : Object) :
    Object :=
  match found with
  | none => named (c.key spec) o
  | some _ => o

/-- What a component's object is brought to. It is owned last, when it has its key. -/
def Component.Prepares (c : Component) (s : Surroundings) (spec : Agent.Spec) (opts : ApplyOptions)
    (found : Option Object) (log : List (Exchange outside)) (r : Except Error Object) : Prop :=
  ∃ made, c.Makes s spec (found.getD (c.emptyObject s.kubelet)) log made ∧
    r = made >>= fun o => opts.own (c.keyed spec found o)

/-- The write that puts an object where none was found, or in the place of the one that
was. -/
def writing (found : Option Object) (o : Object) (reply : Except Error Unit) : Exchange outside :=
  match found with
  | none => ⟨.store (.create o), reply⟩
  | some _ => ⟨.store (.update o), reply⟩

theorem Component.Prepares.kind_eq (h : c.Prepares s spec opts found log (.ok o)) :
    o.kind = c.kind := by
  obtain ⟨made, hmakes, ho⟩ := h
  obtain ⟨o₁, rfl, hown⟩ := Except.bind_eq_ok.1 ho.symm
  obtain ⟨issued, hmutate⟩ := hmakes.mutate
  have hkind : (c.keyed spec found o₁).kind = o₁.kind := by
    cases found with
    | none => exact withMetadata_kind _ _
    | some observed => rfl
  rw [own_kind hown, hkind]
  exact (Component.change_of_mutate hmutate).kind_eq

/-! ## Everything that can be said -/

/-- How bringing a component to the spec can go on after the reply to its read. -/
inductive Applies (c : Component) (s : Surroundings) (spec : Agent.Spec) (opts : ApplyOptions) :
    Except Error (Option Object) → List (Exchange outside) → Except Error Applied → Prop where
  | unread (e : Error) : Applies c s spec opts (.error e) [] (.error e)
  /-- It is there and is not to be touched. -/
  | kept {o : Object} (honly : opts.createOnly = true) :
    Applies c s spec opts (.ok (some o)) [] (.ok ⟨false, o⟩)
  /-- The component or the owner setter refuses. -/
  | refused {found : Option Object} {asked : List (Exchange outside)} {e : Error}
      (hprepares : c.Prepares s spec opts found asked (.error e)) :
    Applies c s spec opts (.ok found) asked (.error e)
  /-- It is as it should be. -/
  | same {o : Object} {asked : List (Exchange outside)}
      (hprepares : c.Prepares s spec opts (some o) asked (.ok o)) :
    Applies c s spec opts (.ok (some o)) asked (.ok ⟨false, o⟩)
  | written {found : Option Object} {o : Object} {asked : List (Exchange outside)}
      (honly : found ≠ none → opts.createOnly = false) (hne : found ≠ some o)
      (hprepares : c.Prepares s spec opts found asked (.ok o)) (reply : Except Error Unit) :
    Applies c s spec opts (.ok found) (asked ++ [writing found o reply])
      (reply.map fun _ => ⟨true, o⟩)

/-- An object is prepared, and then something is done with it. -/
theorem prepares_of_converses {α : Type} {k : Object → Task α} {r : Except Error α}
    (found : Option Object)
    (h : (c.desired s spec (found.getD (c.emptyObject s.kubelet)) >>= fun o =>
      Task.ofExcept (opts.own (c.keyed spec found o)) >>= k).run.Converses log r) :
    (∃ e, c.Prepares s spec opts found log (.error e) ∧ r = .error e) ∨
      ∃ asked rest o, log = asked ++ rest ∧ c.Prepares s spec opts found asked (.ok o) ∧
        (k o).run.Converses rest r := by
  rcases Attempt.converses_bind_iff.1 h with ⟨e, hmade, rfl⟩ | ⟨asked, rest, o₁, rfl, hmade, hrest⟩
  · exact .inl ⟨e, ⟨_, c.makes_of_converses hmade, rfl⟩, rfl⟩
  rcases Attempt.converses_bind_iff.1 hrest with ⟨e, howned, rfl⟩ |
    ⟨unsaid, rest, o, rfl, howned, hdone⟩
  · obtain ⟨rfl, hown⟩ := Task.converses_ofExcept_iff.1 howned
    rw [List.append_nil]
    exact .inl ⟨e, ⟨_, c.makes_of_converses hmade, hown⟩, rfl⟩
  · obtain ⟨rfl, hown⟩ := Task.converses_ofExcept_iff.1 howned
    exact .inr ⟨asked, rest, o, rfl, ⟨_, c.makes_of_converses hmade, hown⟩, hdone⟩

/-- A write ends it, whether or not it succeeds. -/
theorem converses_write {r : Except Error Applied} {write : Task Unit}
    (said : Except Error Unit → Exchange outside)
    (hwrite : ∀ log reply, write.run.Converses log reply → log = [said reply])
    (h : (write >>= fun _ => pure ⟨true, o⟩ : Task Applied).run.Converses log r) :
    ∃ reply, log = [said reply] ∧ r = reply.map fun _ => ⟨true, o⟩ := by
  rcases Attempt.converses_bind_iff.1 h with ⟨e, hfailed, rfl⟩ | ⟨before, after, a, rfl, hdone, hend⟩
  · exact ⟨.error e, hwrite _ _ hfailed, rfl⟩
  · obtain ⟨rfl, rfl⟩ := Attempt.converses_pure_iff.1 hend
    refine ⟨.ok a, ?_, rfl⟩
    rw [hwrite _ _ hdone]
    rfl

/-- **The course of one step.** Bringing a component to the spec begins with reading its
object, and goes on as listed. -/
theorem applies_of_converses {r : Except Error Applied}
    (h : (apply c s spec opts).run.Converses log r) :
    ∃ reply rest, log = ⟨.store (.get (c.emptyObject s.kubelet) (c.key spec)), reply⟩ :: rest ∧
      Applies c s spec opts reply rest r := by
  unfold apply at h
  change (Task.ask (.store (.get _ _)) >>= _).run.Converses log r at h
  rcases Task.converses_ask_bind_iff.1 h with ⟨e, rfl, rfl⟩ | ⟨found, rest, rfl, hrest⟩
  · exact ⟨.error e, [], rfl, .unread e⟩
  clear h
  refine ⟨.ok found, rest, rfl, ?_⟩
  cases found with
  | none =>
    rcases prepares_of_converses none hrest with ⟨e, hprepares, rfl⟩ |
      ⟨asked, rest, o, rfl, hprepares, hwrite⟩
    · exact .refused hprepares
    · obtain ⟨reply, rfl, rfl⟩ := converses_write (writing none o)
        (fun _ _ => Task.converses_ask_iff.1) hwrite
      exact .written (fun hnone => absurd rfl hnone) nofun hprepares reply
  | some observed =>
    change Script.Converses (ExceptT.run (ite _ _ _)) rest r at hrest
    split at hrest
    · obtain ⟨rfl, rfl⟩ := Attempt.converses_pure_iff.1 hrest
      exact .kept ‹_›
    · rename_i honly
      rcases prepares_of_converses (some observed) hrest with ⟨e, hprepares, rfl⟩ |
        ⟨asked, rest, o, rfl, hprepares, hwrite⟩
      · exact .refused hprepares
      · by_cases hsame : o = observed
        · rw [if_pos hsame] at hwrite
          obtain ⟨rfl, rfl⟩ := Attempt.converses_pure_iff.1 hwrite
          rw [List.append_nil, hsame]
          exact .same (hsame ▸ hprepares)
        · rw [if_neg hsame] at hwrite
          obtain ⟨reply, rfl, rfl⟩ := converses_write (writing (some observed) o)
            (fun _ _ => Task.converses_ask_iff.1) hwrite
          refine .written (fun _ => eq_false_of_ne_true honly) ?_ hprepares reply
          exact fun heq => hsame (Option.some.inj heq).symm

/-! ## One step -/

/-- No owner setter that changes the name or the namespace of an object. -/
def ApplyOptions.KeepsKey (opts : ApplyOptions) : Prop :=
  ∀ setter, opts.setOwner = some setter → ∀ m m', setter m = .ok m' →
    m'.name = m.name ∧ m'.namespace = m.namespace

/-- What is said when a component is brought to the spec, where `found` is the reply to
the read and `r` the result. -/
structure OneStep (c : Component) (s : Surroundings) (spec : Agent.Spec) (opts : ApplyOptions)
    (found : Except Error (Option Object)) (log : List (Exchange outside))
    (r : Except Error Applied) : Prop where
  /-- The object is read first, and nothing is read again. -/
  read : ∃ rest, log = ⟨.store (.get (c.emptyObject s.kubelet) (c.key spec)), found⟩ :: rest ∧
    ∀ e ∈ rest, e.reads = false
  /-- There is at most one write. -/
  single : (log.filter Exchange.writes).length ≤ 1
  /-- An object is created only if there was none. It is the empty one, brought to the spec,
  put under the component's key and then owned. -/
  create : ∀ o reply, ⟨.store (.create o), reply⟩ ∈ log → found = .ok none ∧
    ∃ asked o₁, asked ⊆ log ∧ c.Makes s spec (c.emptyObject s.kubelet) asked (.ok o₁) ∧
      opts.own (named (c.key spec) o₁) = .ok o
  /-- Only an object that was found, and is not to be left alone, is updated, and only if it
  is another one when it is brought to the spec and owned. -/
  update : ∀ o reply, ⟨.store (.update o), reply⟩ ∈ log → ∃ observed,
    found = .ok (some observed) ∧ opts.createOnly = false ∧ o ≠ observed ∧
    ∃ asked o₁, asked ⊆ log ∧ c.Makes s spec observed asked (.ok o₁) ∧ opts.own o₁ = .ok o
  delete : ∀ o reply, ⟨.store (.delete o), reply⟩ ∉ log
  kind : ∀ e ∈ log, ∀ call, e.call? = some call → call.kind = c.kind
  /-- All calls are about the component's key, if what is found has it and its owner leaves
  it alone. -/
  key : opts.KeepsKey → (∀ o, found = .ok (some o) → o.key = c.key spec) →
    ∀ e ∈ log, ∀ call, e.call? = some call → call.key = c.key spec
  /-- The result is that something changed exactly if the write succeeded. -/
  changed : ∀ applied, r = .ok applied →
    (applied.changed = true ↔ ∃ e ∈ log, e.writes = true ∧ e.succeeded = true)
  /-- After a failure no write has succeeded. -/
  failed : ∀ e, r = .error e → ∀ x ∈ log, x.writes = true → x.succeeded = false

theorem own_key (hopts : opts.KeepsKey) (h : opts.own o₁ = .ok o) : o.key = o₁.key := by
  unfold ApplyOptions.own at h
  split at h
  · cases h
    rfl
  · obtain ⟨m, hm, rfl⟩ := Except.map_eq_ok.1 h
    obtain ⟨hname, hspace⟩ := hopts _ ‹_› _ m hm
    rw [Object.key, metadata_withMetadata, hname, hspace]
    rfl

/-- What is prepared under a key keeps it. -/
theorem Component.Prepares.key_eq (hopts : opts.KeepsKey)
    (hfound : ∀ observed, found = some observed → observed.key = c.key spec)
    (h : c.Prepares s spec opts found log (.ok o)) : o.key = c.key spec := by
  obtain ⟨made, hmakes, ho⟩ := h
  obtain ⟨o₁, rfl, hown⟩ := Except.bind_eq_ok.1 ho.symm
  rw [own_key hopts hown]
  cases found with
  | none =>
    rw [keyed, named, Object.key, metadata_withMetadata]
    rfl
  | some observed =>
    obtain ⟨issued, hmutate⟩ := hmakes.mutate
    have hretains := Component.mutate_retains hmutate
    rw [keyed, Object.key, hretains.metadata.name, hretains.metadata.namespace]
    exact hfound observed rfl

section

variable {reply : Except Error (Option Object)} {rest : List (Exchange outside)}
  {first e : Exchange outside} {call : Call} {r : Except Error Applied}

theorem writes_of_call? (h : e.call? = some call) : e.writes = call.isWrite := by
  rw [Exchange.writes, h]
  rfl

theorem writes_eq_false_of_call? (h : e.call? = none) : e.writes = false := by
  rw [Exchange.writes, h]
  rfl

theorem reads_eq_false_of_call? (h : e.call? = none) : e.reads = false := by
  rw [Exchange.reads, h]
  rfl

theorem eq_of_call? (hrest : ∀ e ∈ rest, e.call? = none) (he : e ∈ first :: rest)
    (hcall : e.call? = some call) : e = first := by
  rcases List.mem_cons.1 he with rfl | he
  · rfl
  · rw [hrest e he] at hcall
    cases hcall

/-- Without a write nothing has changed. -/
theorem oneStep_of_unwritten (hrest : ∀ e ∈ rest, e.call? = none)
    (hunchanged : ∀ applied, r = .ok applied → applied.changed = false) :
    OneStep c s spec opts reply
      (⟨.store (.get (c.emptyObject s.kubelet) (c.key spec)), reply⟩ :: rest) r := by
  have hread : ∀ e ∈ ⟨.store (.get (c.emptyObject s.kubelet) (c.key spec)), reply⟩ :: rest,
      ∀ call, e.call? = some call → call = .get (c.emptyObject s.kubelet) (c.key spec) := by
    intro e he call hcall
    rw [eq_of_call? hrest he hcall] at hcall
    exact (Option.some.inj hcall).symm
  have hunwritten : ∀ e ∈ ⟨.store (.get (c.emptyObject s.kubelet) (c.key spec)), reply⟩ :: rest,
      e.writes = false := by
    intro e he
    cases hcall : e.call? with
    | none => exact writes_eq_false_of_call? hcall
    | some call => rw [writes_of_call? hcall, hread e he call hcall, Call.isWrite]
  constructor
  case read => exact ⟨rest, rfl, fun e he => reads_eq_false_of_call? (hrest e he)⟩
  case single =>
    rw [List.filter_eq_nil_iff.2 fun e he => by rw [hunwritten e he]; exact Bool.false_ne_true]
    exact Nat.zero_le 1
  case create =>
    intro o w he
    cases hread _ he (.create o) rfl
  case update =>
    intro o w he
    cases hread _ he (.update o) rfl
  case delete =>
    intro o w he
    cases hread _ he (.delete o) rfl
  case kind =>
    intro e he call hcall
    rw [hread e he call hcall]
    exact emptyObject_kind c s.kubelet
  case key =>
    intro _ _ e he call hcall
    rw [hread e he call hcall, Call.key]
  case changed =>
    intro applied hr
    rw [hunchanged applied hr]
    refine ⟨nofun, ?_⟩
    rintro ⟨e, he, hwrites, -⟩
    rw [hunwritten e he] at hwrites
    cases hwrites
  case failed =>
    intro _ _ e he hwrites
    rw [hunwritten e he] at hwrites
    cases hwrites

/-- The call of a write is a creation or an update, of the object that is written. -/
theorem writing_call? (found : Option Object) (o : Object) (w : Except Error Unit) :
    (writing found o w).call? = some (if found = none then .create o else .update o) := by
  cases found <;> rfl

theorem writes_writing (found : Option Object) (o : Object) (w : Except Error Unit) :
    (writing found o w).writes = true := by
  cases found <;> rfl

theorem reads_writing (found : Option Object) (o : Object) (w : Except Error Unit) :
    (writing found o w).reads = false := by
  cases found <;> rfl

theorem succeeded_writing {w : Except Error Unit} :
    (writing found o w).succeeded = true ↔ ∃ u, w = .ok u := by
  cases found <;> cases w <;> simp [writing, Exchange.succeeded]

/-! ### On the way to a write -/

section

variable {wanted : Object} {k : ObjectKey} {w : Except Error Unit}

/-- The only calls are the read and the write. -/
theorem eq_get_or_eq_writing (hasked : ∀ e ∈ asked, e.call? = none)
    (he : e ∈ ⟨.store (.get wanted k), reply⟩ :: (asked ++ [writing found o w]))
    (hcall : e.call? = some call) : call = .get wanted k ∨ e = writing found o w := by
  rcases List.mem_cons.1 he with rfl | he
  · exact .inl (Option.some.inj hcall).symm
  rcases List.mem_append.1 he with he | he
  · rw [hasked e he] at hcall
    cases hcall
  · exact .inr (List.mem_singleton.1 he)

theorem filter_writes_eq_singleton (hasked : ∀ e ∈ asked, e.call? = none) :
    (⟨.store (.get wanted k), reply⟩ :: (asked ++ [writing found o w])).filter Exchange.writes
      = [writing found o w] := by
  have hunasked : asked.filter Exchange.writes = [] :=
    List.filter_eq_nil_iff.2 fun e he =>
      Bool.not_eq_true _ ▸ writes_eq_false_of_call? (hasked e he)
  rw [List.filter_cons_of_neg Bool.false_ne_true, List.filter_append, hunasked, List.nil_append,
    List.filter_cons_of_pos (writes_writing found o w), List.filter_nil]

theorem eq_writing_of_writes (hasked : ∀ e ∈ asked, e.call? = none)
    (he : e ∈ ⟨.store (.get wanted k), reply⟩ :: (asked ++ [writing found o w]))
    (hwrites : e.writes = true) : e = writing found o w := by
  have hmem := List.mem_filter.2 ⟨he, hwrites⟩
  rw [filter_writes_eq_singleton hasked] at hmem
  exact List.mem_singleton.1 hmem

end

/-- A write is about an object that is wanted, and it tells whether something changed. -/
theorem oneStep_of_written (hasked : ∀ e ∈ asked, e.call? = none)
    (honly : found ≠ none → opts.createOnly = false) (hne : found ≠ some o)
    (hprepares : c.Prepares s spec opts found asked (.ok o)) (w : Except Error Unit) :
    OneStep c s spec opts (.ok found)
      (⟨.store (.get (c.emptyObject s.kubelet) (c.key spec)), .ok found⟩ ::
        (asked ++ [writing found o w])) (w.map fun _ => ⟨true, o⟩) := by
  obtain ⟨made, hmakes, ho⟩ := id hprepares
  obtain ⟨o₁, rfl, hown⟩ := Except.bind_eq_ok.1 ho.symm
  have hsub (first : Exchange outside) : asked ⊆ first :: (asked ++ [writing found o w]) :=
    fun e he => .tail _ (List.mem_append_left _ he)
  constructor
  case read =>
    refine ⟨_, rfl, fun e he => ?_⟩
    rcases List.mem_append.1 he with he | he
    · exact reads_eq_false_of_call? (hasked e he)
    · rw [List.mem_singleton.1 he, reads_writing]
  case single => exact Nat.le_of_eq (congrArg List.length (filter_writes_eq_singleton hasked))
  case create =>
    intro o' w' he
    have heq := eq_writing_of_writes hasked he rfl
    cases found with
    | some observed => cases heq
    | none =>
      cases heq
      exact ⟨rfl, asked, o₁, hsub _, hmakes, hown⟩
  case update =>
    intro o' w' he
    have heq := eq_writing_of_writes hasked he rfl
    cases found with
    | none => cases heq
    | some observed =>
      cases heq
      exact ⟨observed, rfl, honly nofun, fun heq => hne (congrArg some heq).symm, asked, o₁,
        hsub _, hmakes, hown⟩
  case delete =>
    intro o' w' he
    have heq := eq_writing_of_writes hasked he rfl
    cases found <;> cases heq
  case kind =>
    intro e he call hcall
    rcases eq_get_or_eq_writing hasked he hcall with rfl | rfl
    · exact emptyObject_kind c s.kubelet
    · rw [writing_call?] at hcall
      cases hcall
      split <;> exact hprepares.kind_eq
  case key =>
    intro hopts hfound e he call hcall
    rcases eq_get_or_eq_writing hasked he hcall with rfl | rfl
    · rfl
    · rw [writing_call?] at hcall
      cases hcall
      have hkey := hprepares.key_eq hopts fun observed heq => hfound observed (congrArg _ heq)
      split <;> exact hkey
  case changed =>
    intro applied hr
    obtain ⟨u, rfl, rfl⟩ := Except.map_eq_ok.1 hr
    exact ⟨fun _ => ⟨writing found o (.ok u),
      .tail _ (List.mem_append_right _ (List.mem_singleton_self _)), writes_writing found o _,
      succeeded_writing.2 ⟨u, rfl⟩⟩, fun _ => rfl⟩
  case failed =>
    intro e hr x hx hwrites
    cases w with
    | ok u => cases hr
    | error e =>
      rw [eq_writing_of_writes hasked hx hwrites]
      refine eq_false_of_ne_true fun hsucceeded => ?_
      obtain ⟨u, hu⟩ := succeeded_writing.1 hsucceeded
      cases hu

/-- What can be said is one step. -/
theorem Applies.oneStep (h : Applies c s spec opts reply rest r) :
    OneStep c s spec opts reply
      (⟨.store (.get (c.emptyObject s.kubelet) (c.key spec)), reply⟩ :: rest) r := by
  have hunasked {found : Option Object} {asked : List (Exchange outside)} {r : Except Error Object}
      (h : c.Prepares s spec opts found asked r) : ∀ e ∈ asked, e.call? = none := by
    obtain ⟨made, hmakes, -⟩ := h
    exact hmakes.call?_eq_none
  cases h with
  | unread e => exact oneStep_of_unwritten (List.forall_mem_nil _) fun _ hr => by cases hr
  | kept honly => exact oneStep_of_unwritten (List.forall_mem_nil _) fun _ hr => by cases hr; rfl
  | refused hprepares => exact oneStep_of_unwritten (hunasked hprepares) fun _ hr => by cases hr
  | same hprepares => exact oneStep_of_unwritten (hunasked hprepares) fun _ hr => by cases hr; rfl
  | written honly hne hprepares w =>
    exact oneStep_of_written (hunasked hprepares) honly hne hprepares w

end

/-- What is said when the object of a component is deleted: it is read, and deleted exactly
if it was found. -/
structure OneDeletion (c : Component) (kubelet : String) (spec : Agent.Spec)
    (found : Except Error (Option Object)) (log : List (Exchange outside))
    (r : Except Error Bool) : Prop where
  absent : (∀ o, found ≠ .ok (some o)) →
    log = [⟨.store (.get (c.emptyObject kubelet) (c.key spec)), found⟩] ∧
      r = found.map fun _ => false
  present : ∀ o, found = .ok (some o) → ∃ reply,
    log = [⟨.store (.get (c.emptyObject kubelet) (c.key spec)), found⟩,
      ⟨.store (.delete o), reply⟩] ∧ r = reply.map fun _ => true

theorem oneDeletion_of_converses {kubelet : String} {r : Except Error Bool}
    (h : (deleteIfExists c kubelet spec).run.Converses log r) :
    ∃ found, OneDeletion c kubelet spec found log r := by
  unfold deleteIfExists at h
  change (Task.ask (.store (.get _ _)) >>= _).run.Converses log r at h
  rcases Task.converses_ask_bind_iff.1 h with ⟨e, rfl, rfl⟩ | ⟨found, rest, rfl, hrest⟩
  · exact ⟨.error e, fun _ => ⟨rfl, rfl⟩, fun o ho => by cases ho⟩
  clear h
  refine ⟨.ok found, ?_⟩
  cases found with
  | none =>
    obtain ⟨rfl, rfl⟩ := Attempt.converses_pure_iff.1 hrest
    exact ⟨fun _ => ⟨rfl, rfl⟩, fun o ho => by cases ho⟩
  | some o =>
    refine ⟨fun habsent => absurd rfl (habsent o), fun o' ho => ?_⟩
    cases ho
    rcases Task.converses_ask_bind_iff.1 hrest with ⟨e, rfl, rfl⟩ | ⟨u, rest, rfl, hend⟩
    · exact ⟨.error e, rfl, rfl⟩
    · obtain ⟨rfl, rfl⟩ := Attempt.converses_pure_iff.1 hend
      exact ⟨.ok u, rfl, rfl⟩

/-- **One component, one step.** Whatever the store and the issuer of certificates answer,
bringing a component to the spec is one step, and so is deleting its object. -/
theorem apply_is_one_step (c : Component) (spec : Agent.Spec) :
    (∀ s opts log r, (apply c s spec opts).run.Converses log r →
      ∃ found, OneStep c s spec opts found log r) ∧
    ∀ kubelet log r, (deleteIfExists c kubelet spec).run.Converses log r →
      ∃ found, OneDeletion c kubelet spec found log r := by
  refine ⟨fun s opts log r h => ?_, fun kubelet log r h => oneDeletion_of_converses h⟩
  obtain ⟨reply, rest, rfl, happlies⟩ := applies_of_converses h
  exact ⟨reply, happlies.oneStep⟩

/-! ### A config map -/

/-- The config map of the default spec, under a name or without one. -/
def filledConfigMap (name : Option String) (space : Option String) : Object :=
  .configMap { metadata := { name, «namespace» := space }, data := some (configMapData default) }

/-- A config map that is not there is created, and nothing else is said. -/
theorem config_map_created_in_one_step :
    ∃ log, (apply .configMap {} default {}).run.Converses log
        (.ok ⟨true, filledConfigMap (some configMapName) (some (default : Agent.Spec).namespace)⟩) ∧
      ∃ e ∈ log, e.writes = true ∧ e.succeeded = true := by
  have hsaid : (apply .configMap {} default {}).run.Converses
      [⟨.store (.get (.configMap {}) (Component.key .configMap default)), .ok none⟩,
        ⟨.store (.create
          (filledConfigMap (some configMapName) (some (default : Agent.Spec).namespace))), .ok ()⟩]
      (.ok ⟨true, filledConfigMap (some configMapName) (some (default : Agent.Spec).namespace)⟩) :=
    .ask (.ask (.done _))
  obtain ⟨found, hstep⟩ := (apply_is_one_step .configMap default).1 _ _ _ _ hsaid
  exact ⟨_, hsaid, (hstep.changed _ rfl).1 rfl⟩

/-- A store may answer with an object of another name, and that is then written. -/
theorem writes_other_key :
    ¬ ∀ (c : Component) s spec opts log r, (apply c s spec opts).run.Converses log r →
      ∀ e ∈ log, ∀ call, e.call? = some call → call.kind = c.kind ∧ call.key = c.key spec := by
  intro hall
  have hsaid : (apply .configMap {} default {}).run.Converses
      [⟨.store (.get (.configMap {}) (Component.key .configMap default)),
          .ok (some (.configMap { metadata := { name := some "other" } }))⟩,
        ⟨.store (.update (filledConfigMap (some "other") none)), .ok ()⟩]
      (.ok ⟨true, filledConfigMap (some "other") none⟩) :=
    .ask (.ask (.done _))
  have hkey := (hall _ _ _ _ _ _ hsaid _ (.tail _ (.head _)) _ rfl).2
  exact absurd (congrArg ObjectKey.name hkey) (by decide)

end Dataplane

end AgentOperator
