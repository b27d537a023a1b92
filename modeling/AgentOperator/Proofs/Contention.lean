import AgentOperator.Proofs.Readings
import AgentOperator.Proofs.Retention
import Mathlib.Logic.Function.Basic
import Mathlib.Logic.Relation

/-!
AgentOperator.Proofs.Contention — no update is lost where many write to one store.

The store of a cluster gives every value that it takes a version of its own, and
takes an update only in place of the version that the update names (`Ledger`). Any
number of components are brought to the spec on it at once, call by call, while other
parties write and delete what they like (`Move`).

From its read to its update, a job holds on to one edition of its object, the one that
the update is computed from (`Careful`), and the update names the version of that
edition (`Job.Makes.retains`). No other edition has that version (`Ledger.Sound`), so
the store takes the update in place of that edition or not at all.
-/

namespace AgentOperator.Dataplane

open Kube (Object ObjectKey ObjectMeta ownVersion)
open Store (Call Place Table placeOf)

/-! ## A store that tells versions apart -/

/-- A value that was stored at a place. -/
structure Edition where
  place : Place
  value : Json

/-- A store that remembers every value it ever held. -/
structure Ledger where
  table : Table := {}
  editions : List Edition := []

namespace Ledger

/-- The value has a version, and no value had it before. -/
def Stamped (l : Ledger) (j : Json) : Prop :=
  ∃ version, ownVersion j = some version ∧ ∀ e ∈ l.editions, ownVersion e.value ≠ some version

def put (l : Ledger) (p : Place) (j : Json) : Ledger := ⟨l.table.put p j, ⟨p, j⟩ :: l.editions⟩

def erase (l : Ledger) (p : Place) : Ledger := { l with table := l.table.erase p }

/-- What is stored at the place of an object is the version that the object names. -/
def Takes (l : Ledger) (o : Object) (current : Json) : Prop :=
  l.table.get? (placeOf o) = some current ∧ ownVersion current = o.metadata.resourceVersion

/-- How a request may be answered, with the ledger after it. A call can fail at any
time. An object that is written is stored under a new version, with whatever else the
cluster makes of it. -/
inductive Answers (l : Ledger) : (r : Request) → outside.Reply r → Ledger → Prop where
  | failed (r : Request) (e : Error) : Answers l r (.error e) l
  | read (template : Object) (key : ObjectKey) :
    Answers l (.store (.get template key)) (l.table.read template key) l
  | created {o : Object} {j : Json} (habsent : l.table.get? (placeOf o) = none)
      (hstamp : l.Stamped j) : Answers l (.store (.create o)) (.ok ()) (l.put (placeOf o) j)
  | updated {o : Object} {j current : Json} (htakes : l.Takes o current) (hstamp : l.Stamped j) :
    Answers l (.store (.update o)) (.ok ()) (l.put (placeOf o) j)
  | deleted (o : Object) : Answers l (.store (.delete o)) (.ok ()) (l.erase (placeOf o))
  | told {r : Request} (hr : ∀ c, r ≠ .store c) (reply : outside.Reply r) : Answers l r reply l

/-- What the last read found, once this request has been made as well. -/
def found (l : Ledger) (before : Option Edition) : Request → Option Edition
  | .store (.get template key) =>
    (l.table.get? ⟨template.kind, key⟩).map fun j => ⟨⟨template.kind, key⟩, j⟩
  | _ => before

/-! ## Versions are used once -/

/-- What is stored is an edition, and the version of an edition tells which it is. -/
structure Sound (l : Ledger) : Prop where
  held : ∀ {p j}, l.table.get? p = some j → ⟨p, j⟩ ∈ l.editions
  versioned : ∀ e ∈ l.editions, ∃ version, ownVersion e.value = some version
  distinct : ∀ e ∈ l.editions, ∀ e' ∈ l.editions, ownVersion e.value = ownVersion e'.value → e = e'

variable {l l' : Ledger} {r : Request} {reply : outside.Reply r}

theorem sound_empty : Sound {} := ⟨nofun, nofun, nofun⟩

theorem Sound.put (h : l.Sound) {p : Place} {j : Json} (hstamp : l.Stamped j) :
    (l.put p j).Sound := by
  obtain ⟨version, hversion, hfresh⟩ := hstamp
  refine ⟨?_, ?_, ?_⟩
  · intro q i hget
    change (l.table.put p j).get? q = some i at hget
    rw [Table.get?_put] at hget
    by_cases hpq : p = q
    · rw [if_pos hpq] at hget
      cases hget
      rw [hpq]
      exact .head _
    · rw [if_neg hpq] at hget
      exact .tail _ (h.held hget)
  · intro e he
    rcases List.mem_cons.1 he with rfl | he
    · exact ⟨version, hversion⟩
    · exact h.versioned e he
  · intro e he e' he' heq
    rcases List.mem_cons.1 he with rfl | he <;> rcases List.mem_cons.1 he' with rfl | he'
    · rfl
    · exact absurd (heq.symm.trans hversion) (hfresh e' he')
    · exact absurd (heq.trans hversion) (hfresh e he)
    · exact h.distinct e he e' he' heq

theorem Sound.erase (h : l.Sound) (p : Place) : (l.erase p).Sound := by
  refine ⟨?_, h.versioned, h.distinct⟩
  intro q i hget
  change (l.table.erase p).get? q = some i at hget
  rw [Table.get?_erase] at hget
  split at hget
  · cases hget
  · exact h.held hget

theorem Sound.answers (h : l.Sound) (hanswer : l.Answers r reply l') : l'.Sound := by
  cases hanswer with
  | created habsent hstamp => exact h.put hstamp
  | updated htakes hstamp => exact h.put hstamp
  | deleted o => exact h.erase _
  | _ => exact h

/-- A read that succeeds answers what is stored. -/
theorem Answers.read_eq {template : Object} {key : ObjectKey} {found : Option Object}
    (h : l.Answers (.store (.get template key)) (.ok found) l') :
    l.table.read template key = .ok found := by
  -- the reply is a variable here, so that the constructors can be told apart
  have hreply : ∀ {reply}, l.Answers (.store (.get template key)) reply l' →
      reply = .ok found → l.table.read template key = .ok found := by
    intro reply h heq
    cases h with
    | failed r e => cases heq
    | read template key => exact heq
    | told hr => exact absurd rfl (hr _)
  exact hreply h rfl

theorem Answers.of_read {template : Object} {key : ObjectKey} {found : Option Object}
    (h : l.table.read template key = .ok found) :
    l.Answers (.store (.get template key)) (.ok found) l := by
  have hread : ∀ {reply}, l.table.read template key = reply →
      l.Answers (.store (.get template key)) reply l := by
    rintro _ rfl
    exact .read template key
  exact hread h

/-- An update that succeeds replaces something. -/
theorem Answers.takes {o : Object} (h : l.Answers (.store (.update o)) (.ok ()) l') :
    ∃ current, l.Takes o current := by
  cases h with
  | updated htakes => exact ⟨_, htakes⟩
  | told hr => exact absurd rfl (hr _)

/-- What was ever stored is not forgotten. -/
theorem Answers.editions_subset (h : l.Answers r reply l') : l.editions ⊆ l'.editions := by
  cases h with
  | created => exact List.subset_cons_self ..
  | updated => exact List.subset_cons_self ..
  | _ => exact List.Subset.refl _

/-- What a read finds is an edition. -/
theorem Sound.found (h : l.Sound) {before : Option Edition}
    (hbefore : ∀ e, before = some e → e ∈ l.editions) {e : Edition}
    (he : l.found before r = some e) : e ∈ l.editions := by
  unfold Ledger.found at he
  split at he
  · obtain ⟨j, hj, rfl⟩ := Option.map_eq_some_iff.1 he
    exact h.held hj
  · exact hbefore e he

end Ledger

/-! ## Jobs -/

/-- A component to be brought to a spec. -/
structure Job where
  component : Component
  surroundings : Surroundings
  spec : Agent.Spec
  opts : ApplyOptions
  retaining : opts.Retaining

namespace Job

/-- Where the job's object is stored. -/
def place (J : Job) : Place := J.component.place J.spec

/-- A stored value as the job reads it. -/
def read (J : Job) (j : Json) : Except Error Object :=
  (J.component.emptyObject J.surroundings.kubelet).decodeLike j

/-- What the job makes of an object, with whatever certificate it is given. -/
def Makes (J : Job) (observed o : Object) : Prop :=
  ∃ issued, (do J.opts.own (← J.component.mutate { J.surroundings with issued } J.spec observed))
    = .ok o

theorem Makes.retains {J : Job} {observed o : Object} (h : J.Makes observed o) :
    observed.Retains o := by
  obtain ⟨issued, h⟩ := h
  obtain ⟨o₁, hmutate, hown⟩ := Except.bind_eq_ok.1 h
  exact (Component.mutate_retains hmutate).trans (own_retains J.retaining hown)

end Job

/-- What is left to do of a job, and what its read found. -/
structure Progress where
  rest : Script outside (Except Error Applied)
  seen : Option Edition := none

def Job.start (J : Job) : Progress :=
  { rest := (apply J.component J.surroundings J.spec J.opts).run }

/-- Whatever the store answers from here on, and whatever others do to it in between, an
update is computed from what was read of the job's object. -/
inductive Careful (J : Job) : Option Edition → Script outside (Except Error Applied) → Prop where
  | done (seen : Option Edition) (r : Except Error Applied) : Careful J seen (.done r)
  | ask {seen : Option Edition} {r : Request}
      {next : outside.Reply r → Script outside (Except Error Applied)}
      (hupdate : ∀ o, r = .store (.update o) → ∃ j observed,
        seen = some ⟨J.place, j⟩ ∧ J.read j = .ok observed ∧ J.Makes observed o)
      (hnext : ∀ {l l' : Ledger} {reply : outside.Reply r}, l.Answers r reply l' →
        Careful J (l.found seen r) (next reply)) :
      Careful J seen (.ask r next)

section

variable {J : Job} {seen : Option Edition}

theorem careful_ofExcept {α : Type} {r : Except Error α} {k : α → Task Applied}
    (h : ∀ a, r = .ok a → Careful J seen (k a).run) :
    Careful J seen (Task.ofExcept r >>= k).run := by
  cases r with
  | error e => exact .done seen (.error e)
  | ok a => exact h a rfl

/-- A request that fails is the last. -/
theorem careful_ask {r : Request} {k : r.Result → Task Applied}
    (hupdate : ∀ o, r = .store (.update o) → ∃ j observed,
      seen = some ⟨J.place, j⟩ ∧ J.read j = .ok observed ∧ J.Makes observed o)
    (hnext : ∀ {l l' : Ledger} {a : r.Result}, l.Answers r (.ok a) l' →
      Careful J (l.found seen r) (k a).run) :
    Careful J seen (Task.ask r >>= k).run := by
  refine .ask hupdate ?_
  intro l l' reply hanswer
  cases reply with
  | error e => exact .done _ _
  | ok a => exact hnext hanswer

/-- Asking for a certificate reads nothing from the store. -/
theorem careful_desired {source : Object} {k : Object → Task Applied}
    (h : ∀ issued o,
      J.component.mutate { J.surroundings with issued } J.spec source = .ok o →
      Careful J seen (k o).run) :
    Careful J seen (J.component.desired J.surroundings J.spec source >>= k).run := by
  by_cases htls : J.component = .enforcerTls
  · by_cases hkind : source.kind = .secret
    · rw [desired_of_secret htls hkind, bind_assoc]
      refine careful_ask (fun _ hr => nomatch hr) ?_
      intro l l' tls _
      exact careful_ofExcept fun o ho => h (.ok tls) o ho
    · rw [desired_of_not_secret htls hkind]
      exact careful_ofExcept fun o ho => nomatch ho
  · rw [desired_of_ne htls]
    exact careful_ofExcept fun o ho => h J.surroundings.issued o ho

/-- The object is read first, and only one that was there is updated. -/
theorem careful_start (J : Job) : Careful J J.start.seen J.start.rest := by
  unfold Job.start apply
  refine careful_ask (fun _ hr => nomatch hr) ?_
  intro l l' found hanswer
  have hread := hanswer.read_eq
  cases found with
  | none =>
    refine careful_desired ?_
    intro issued o _
    refine careful_ofExcept fun o' _ => ?_
    exact careful_ask (fun _ hr => nomatch hr) fun _ => .done _ _
  | some observed =>
    obtain ⟨j, hj, hdecode⟩ := Table.get?_of_read_eq_some hread
    have hseen : l.found none (.store (.get (J.component.emptyObject J.surroundings.kubelet)
        (J.component.key J.spec))) = some ⟨J.place, j⟩ := by
      rw [Ledger.found, hj, emptyObject_kind]
      rfl
    change Careful J (l.found none _) (ExceptT.run (ite _ _ _))
    rw [hseen]
    -- it is updated unless it is to be left alone, or is as it should be
    split
    · exact .done _ _
    · refine careful_desired ?_
      intro issued o hmutate
      refine careful_ofExcept ?_
      intro o' hown
      split
      · exact .done _ _
      · refine careful_ask ?_ fun _ => .done _ _
        intro o hr
        cases hr
        exact ⟨j, observed, rfl, hdecode, issued, Except.bind_eq_ok.2 ⟨o, hmutate, hown⟩⟩

end

/-! ## Jobs under way -/

/-- What was read was stored, and nothing else will be updated. -/
structure Progress.Sound (J : Job) (l : Ledger) (a : Progress) : Prop where
  seen : ∀ e, a.seen = some e → e ∈ l.editions
  careful : Careful J a.seen a.rest

namespace Progress.Sound

variable {J : Job} {l l' : Ledger} {a : Progress}

theorem start (J : Job) (l : Ledger) : J.start.Sound J l := ⟨nofun, careful_start J⟩

theorem mono (h : a.Sound J l) (hsubset : l.editions ⊆ l'.editions) : a.Sound J l' :=
  ⟨fun e he => hsubset (h.seen e he), h.careful⟩

/-- A job goes on with the answer to its request. -/
theorem next (h : a.Sound J l) (hl : l.Sound) {r : Request} {reply : outside.Reply r}
    {next : outside.Reply r → Script outside (Except Error Applied)} (hasks : a.rest = .ask r next)
    (hanswer : l.Answers r reply l') : Progress.Sound J l' ⟨next reply, l.found a.seen r⟩ := by
  have hcareful := h.careful
  rw [hasks] at hcareful
  cases hcareful with
  | ask hupdate hnext =>
    exact ⟨fun e he => hanswer.editions_subset (hl.found h.seen he), hnext hanswer⟩

/-- The store can take an update only in place of what the job read. -/
theorem replaces (h : a.Sound J l) (hl : l.Sound) {o : Object} {current : Json}
    {next : outside.Reply (.store (.update o)) → Script outside (Except Error Applied)}
    (hasks : a.rest = .ask (.store (.update o)) next) (htakes : l.Takes o current) :
    placeOf o = J.place ∧ a.seen = some ⟨J.place, current⟩ ∧
      ∃ observed, J.read current = .ok observed ∧ J.Makes observed o := by
  have hcareful := h.careful
  rw [hasks] at hcareful
  generalize hseen : a.seen = seen at hcareful
  cases hcareful with
  | ask hupdate hnext =>
    obtain ⟨j, observed, rfl, hread, hmakes⟩ := hupdate o rfl
    have he := h.seen _ hseen
    obtain ⟨version, hversion⟩ := hl.versioned _ he
    -- the version that was read is the one the update names, so the editions are one
    have hnamed : o.metadata.resourceVersion = some version :=
      hmakes.retains.metadata.resourceVersion.trans (Object.version_of_decodeLike hread hversion)
    have hsame : (⟨placeOf o, current⟩ : Edition) = ⟨J.place, j⟩ :=
      hl.distinct _ (hl.held htakes.1) _ he (htakes.2.trans (hnamed.trans hversion.symm))
    obtain ⟨hplace, rfl⟩ := Edition.mk.inj hsame
    exact ⟨hplace, rfl, observed, hread, hmakes⟩

end Progress.Sound

/-! ## Everybody at once -/

/-- Jobs under way on one ledger. -/
structure Contest (ι : Type) where
  ledger : Ledger := {}
  progress : ι → Progress

variable {ι : Type} {jobs : ι → Job} {x y : Contest ι}

/-- Before anything was done. -/
def Contest.start (jobs : ι → Job) : Contest ι := { progress := fun i => (jobs i).start }

/-- The next thing that happens: a request of one of the jobs is answered, or another
party writes or deletes something. -/
inductive Move [DecidableEq ι] : Contest ι → Contest ι → Prop where
  | job {x : Contest ι} {i : ι} {r : Request}
      {next : outside.Reply r → Script outside (Except Error Applied)}
      {reply : outside.Reply r} {ledger : Ledger} (hasks : (x.progress i).rest = .ask r next)
      (hanswer : x.ledger.Answers r reply ledger) :
      Move x ⟨ledger, Function.update x.progress i
        ⟨next reply, x.ledger.found (x.progress i).seen r⟩⟩
  | put {x : Contest ι} {j : Json} (p : Place) (hstamp : x.ledger.Stamped j) :
    Move x { x with ledger := x.ledger.put p j }
  | erase {x : Contest ι} (p : Place) : Move x { x with ledger := x.ledger.erase p }

/-- What can come about. -/
def Reachable [DecidableEq ι] (jobs : ι → Job) : Contest ι → Prop :=
  Relation.ReflTransGen Move (.start jobs)

structure Contest.Sound (jobs : ι → Job) (x : Contest ι) : Prop where
  ledger : x.ledger.Sound
  progress : ∀ i, (x.progress i).Sound (jobs i) x.ledger

theorem Contest.sound_start (jobs : ι → Job) : (Contest.start jobs).Sound jobs :=
  ⟨Ledger.sound_empty, fun i => .start (jobs i) {}⟩

theorem Contest.Sound.move [DecidableEq ι] (h : x.Sound jobs) (hmove : Move x y) :
    y.Sound jobs := by
  cases hmove with
  | put p hstamp =>
    exact ⟨h.ledger.put hstamp, fun i => (h.progress i).mono (List.subset_cons_self ..)⟩
  | erase p => exact ⟨h.ledger.erase p, fun i => (h.progress i).mono (List.Subset.refl _)⟩
  | @job i r next reply ledger hasks hanswer =>
    refine ⟨h.ledger.answers hanswer, ?_⟩
    intro k
    change (Function.update x.progress i _ k).Sound (jobs k) ledger
    by_cases hk : k = i
    · subst hk
      rw [Function.update_self]
      exact (h.progress k).next h.ledger hasks hanswer
    · rw [Function.update_of_ne hk]
      exact (h.progress k).mono hanswer.editions_subset

theorem Reachable.sound [DecidableEq ι] (h : Reachable jobs x) : x.Sound jobs := by
  induction h with
  | refl => exact Contest.sound_start jobs
  | tail _ hmove ih => exact ih.move hmove

/-- **No update is lost.** Whenever an update of a job succeeds, however the requests of
all jobs and the writes of others were interleaved before, what it replaces is what the
job read, and the update was computed from that; for components and the agent's owner
setter keep the identity, the version and the status of what they are given. -/
theorem updates_replace_what_was_read [DecidableEq ι] (jobs : ι → Job) :
    (∀ x, Reachable jobs x → ∀ i o next ledger,
      (x.progress i).rest = .ask (.store (.update o)) next →
      x.ledger.Answers (.store (.update o)) (.ok ()) ledger →
      ∃ current observed, x.ledger.table.get? (placeOf o) = some current ∧
        placeOf o = (jobs i).place ∧ (x.progress i).seen = some ⟨(jobs i).place, current⟩ ∧
        (jobs i).read current = .ok observed ∧ (jobs i).Makes observed o ∧ observed.Retains o) ∧
    (∀ (c : Component) s spec o o', c.mutate s spec o = .ok o' → o.Retains o') ∧
    ∀ a spec setter, Controller.ownerSetter a spec = .ok setter →
      OwnerSetter.Retaining setter := by
  refine ⟨?_, ?_, ?_⟩
  · intro x hreach i o next ledger hasks hanswer
    obtain ⟨current, htakes⟩ := hanswer.takes
    have hsound := hreach.sound
    obtain ⟨hplace, hseen, observed, hread, hmakes⟩ :=
      (hsound.progress i).replaces hsound.ledger hasks htakes
    exact ⟨current, observed, htakes.1, hplace, hseen, hread, hmakes, hmakes.retains⟩
  · intro c s spec o o' hmutate
    exact Component.mutate_retains hmutate
  · intro a spec setter hsetter
    exact (Controller.ownerSetter_proper hsetter).retaining

/-! ### A config map that is filled -/

/-- A config map is to be brought to the default spec. -/
def configMapJob : Job :=
  { component := .configMap, surroundings := {}, spec := default, opts := {}, retaining := nofun }

/-- Its object, as somebody may have stored it. -/
def configMapHolding (version : String) (data : Option (Dict String)) : Object :=
  .configMap { data, metadata :=
    { (default : ObjectMeta) with
      name := some configMapName
      «namespace» := some (default : Agent.Spec).namespace
      resourceVersion := some version } }

theorem known_configMapHolding (version : String) (data : Option (Dict String)) :
    (configMapHolding version data).Known "" :=
  ⟨nofun, ObjectMeta.known_default.rest⟩

theorem stamped_configMapHolding {l : Ledger} (version : String) (data : Option (Dict String))
    (h : ∀ e ∈ l.editions, ownVersion e.value ≠ some version) :
    l.Stamped (configMapHolding version data).encode :=
  ⟨version, Object.ownVersion_encode (known_configMapHolding version data), h⟩

/-- Somebody stored it without data. -/
def bareLedger : Ledger :=
  ({} : Ledger).put configMapJob.place (configMapHolding "1" none).encode

/-- The job has read it and asks to update it. -/
def filling : Progress where
  rest :=
    let o := configMapHolding "1" (some (configMapData default))
    (Task.update o >>= fun _ => pure ⟨true, o⟩).run
  seen := some ⟨configMapJob.place, (configMapHolding "1" none).encode⟩

theorem reachable_filling :
    Reachable (fun _ : Unit => configMapJob) ⟨bareLedger, fun _ => filling⟩ := by
  have hput := Move.put (x := Contest.start fun _ : Unit => configMapJob) configMapJob.place
    (stamped_configMapHolding "1" none nofun)
  refine .tail (.single hput) ?_
  have hread : bareLedger.table.read (.configMap {}) (configMapJob.component.key default)
      = .ok (some (configMapHolding "1" none)) := by
    rw [Table.read_of_some (Table.get?_put ..)]
    exact congrArg (some <$> ·) (Object.decodeLike_encode (known_configMapHolding "1" none))
  exact Move.job (x := ⟨bareLedger, fun _ : Unit => configMapJob.start⟩) (i := ()) rfl
    (Ledger.Answers.of_read hread)

/-- The update is taken in place of the config map that was read. -/
theorem config_map_replaced_as_read :
    Reachable (fun _ : Unit => configMapJob) ⟨bareLedger, fun _ => filling⟩ ∧
      ∃ ledger current,
        bareLedger.Answers (.store (.update (configMapHolding "1" (some (configMapData default)))))
          (.ok ()) ledger ∧
        bareLedger.table.get? configMapJob.place = some current ∧
        filling.seen = some ⟨configMapJob.place, current⟩ := by
  have htakes : bareLedger.Takes (configMapHolding "1" (some (configMapData default)))
      (configMapHolding "1" none).encode :=
    ⟨Table.get?_put .., Object.ownVersion_encode (known_configMapHolding "1" none)⟩
  have hfresh : ∀ e ∈ bareLedger.editions, ownVersion e.value ≠ some "2" := by
    intro e he
    rw [List.mem_singleton.1 he, Object.ownVersion_encode (known_configMapHolding "1" none)]
    decide
  have hanswer := Ledger.Answers.updated htakes (stamped_configMapHolding "2" none hfresh)
  obtain ⟨current, observed, hcurrent, hplace, hseen, -⟩ :=
    (updates_replace_what_was_read fun _ : Unit => configMapJob).1 _ reachable_filling () _ _ _ rfl
      hanswer
  rw [hplace] at hcurrent
  exact ⟨reachable_filling, _, current, hanswer, hcurrent, hseen⟩

end AgentOperator.Dataplane
