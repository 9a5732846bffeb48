import ConceptQuery.Proofs.Cache.Prefixes
import Mathlib.Data.List.TakeWhile

/-!
# Operations at a failing server

A cache sends its commands one by one, and any of them may fail. What a pipeline queues waits for
the execution, and only the last command of a task changes a hash. So a task that meets a failure
has changed nothing, whichever of its commands it was, and a run with failures leaves the hashes
that the run without the failed tasks leaves.

* `Redis.Task`, `Redis.Task.commands`, `Redis.carryOut` — all that a cache asks of a server;
* `Redis.Change`, `Redis.Connection` — the changes that wait in a pipeline, beside the hashes;
* `Connection.after`, `Connection.send` — one command, and commands up to the first that fails;
* `hashes_of_stopped`, `send_commands` — a task that was stopped, and a task call by call;
* `Redis.Atomic`, `atomic_carryOut` — one task, whatever fails;
* `Redis.during`, `Redis.afterAll`, `hashes_afterAll` — runs in which other commands fail each time;
* `recovers_from_failures` — the runs, and a record that is saved after them.
-/

namespace ConceptQuery.Cache.Redis

/-! ### Tasks -/

/-- What a cache asks of a server. -/
inductive Task where
  | onRecord (o : Operation)
  | count
  | stats
  | ping

/-- The commands of a task, in the order in which they are sent. -/
def Task.commands (r : Redis) : Task → List Command
  | .onRecord o => o.commands r
  | .count => [.scan r.keyPattern]
  | .stats => [.scan r.keyPattern]
  | .ping => [.ping]

/-- What a task does to all hashes if none of its commands fails. -/
def Task.act (r : Redis) : Task → Table Hash → Table Hash
  | .onRecord o, hashes => o.act r hashes
  | _, hashes => hashes

/-- What a task is answered with. -/
inductive Reply where
  | onRecord (a : Answer)
  | number (n : Int)
  | told (s : Stats)
  | healthy (b : Bool)

/-- Carries out a task. -/
def carryOut (r : Redis) : Task → Except Failure Reply × Redis
  | .onRecord o =>
    let (outcome, server) := r.server.carryOut r.keyPrefix o
    (outcome.map .onRecord, { r with server })
  | .count => let (outcome, r) := r.countAll; (outcome.map .number, r)
  | .stats => let (outcome, r) := r.stats; (outcome.map .told, r)
  | .ping => let (healthy, r) := r.isHealthy; (.ok (.healthy healthy), r)

/-- The answer to a task one of whose commands fails: a ping tells that the server cannot be
reached, every other task is refused. -/
def Task.refusal : Task → Except Failure Reply
  | .ping => .ok (.healthy false)
  | _ => .error unavailable

/-- Whether a command of a task is among those that fail. -/
def hits (r : Redis) (failing : List Verb) (t : Task) : Bool :=
  (t.commands r).any fun c => failing.contains c.verb

variable {r : Redis} {t : Task} {failing : List Verb}

theorem all_not_fails (r : Redis) (t : Task) :
    (t.commands r).all (fun c => !r.server.fails c) = !r.hits r.server.failing t :=
  List.all_eq_not_any_not.trans (by simp only [Bool.not_not]; rfl)

/-- The commands of a task may fail; those that look at the hashes leave them as they are. -/
theorem perform_commands {α : Type} (r : Redis) (t : Task) (look : Table Hash → α) :
    let done := r.perform (t.commands r) fun hashes => (look hashes, hashes)
    (r.hits r.server.failing t = true → done.1 = .error unavailable)
      ∧ done.2.keyPrefix = r.keyPrefix ∧ done.2.server.failing = r.server.failing
      ∧ done.2.server.hashes = r.server.hashes := by
  intro done
  obtain ⟨hanswer, hfailing, hhashes⟩ :=
    perform_eq r (t.commands r) fun hashes => (look hashes, hashes)
  rw [all_not_fails] at hanswer hhashes
  refine ⟨?_, keyPrefix_perform _ _ _, hfailing, hhashes.trans (ite_self _)⟩
  intro hhits
  rw [hanswer, hhits]
  rfl

/-- What a ping leaves. -/
theorem snd_carryOut_ping (r : Redis) :
    (r.carryOut .ping).2 = (r.perform [.ping] fun hashes => ((), hashes)).2 := by
  show r.isHealthy.2 = _
  unfold isHealthy
  split <;> next h => rw [h]

/-- Commands up to the first that fails, which is sent as well. -/
def tried (fails : Command → Bool) : List Command → List Command
  | [] => []
  | c :: rest => if fails c then [c] else c :: tried fails rest

theorem received_receiveAll (s : Server) (commands : List Command) :
    (s.receiveAll commands).2.received = s.received ++ tried s.fails commands := by
  induction commands generalizing s with
  | nil => exact (List.append_nil _).symm
  | cons c rest ih =>
    have hfails : (s.receive c).fails = s.fails := rfl
    rw [Server.receiveAll, tried]
    split
    · rfl
    · rw [ih, hfails, Server.receive, List.append_assoc]
      rfl

theorem received_perform {α : Type} (r : Redis) (commands : List Command)
    (act : Table Hash → α × Table Hash) : (r.perform commands act).2.server.received
      = r.server.received ++ tried r.server.fails commands := by
  rw [← received_receiveAll]
  unfold perform
  split <;> next h => rw [h]

/-- **The commands of a task** are sent one by one, up to the first that fails. -/
theorem received_carryOut (r : Redis) (t : Task) : (r.carryOut t).2.server.received
    = r.server.received ++ tried r.server.fails (t.commands r) := by
  cases t with
  | onRecord o =>
    cases o with
    | save record =>
      exact received_perform r _ fun hashes => ((), (Operation.save record).act r hashes)
    | fetch key => exact received_perform r _ fun hashes => (hashes.get? (r.hashKey key), hashes)
    | remove key =>
      exact received_perform r _ fun hashes => ((), (Operation.remove key).act r hashes)
  | count => exact received_perform r _ fun hashes => (r.countKeys hashes, hashes)
  | stats => exact received_perform r _ fun hashes => (r.countKeys hashes, hashes)
  | ping =>
    rw [snd_carryOut_ping]
    exact received_perform r _ fun hashes => ((), hashes)

/-- **A task** is refused and changes nothing, or has all its effect. -/
theorem carryOut_cases (r : Redis) (t : Task) :
    (r.hits r.server.failing t = true → (r.carryOut t).1 = t.refusal)
      ∧ (r.carryOut t).2.keyPrefix = r.keyPrefix
      ∧ (r.carryOut t).2.server.failing = r.server.failing
      ∧ (r.carryOut t).2.server.hashes
        = if r.hits r.server.failing t then r.server.hashes else t.act r r.server.hashes := by
  cases t with
  | onRecord o =>
    obtain ⟨hanswer, hfailing, hhashes⟩ := carryOut_eq r.server r.keyPrefix o
    have hsucceeds : o.succeeds r = !r.hits r.server.failing (.onRecord o) :=
      all_not_fails r (.onRecord o)
    rw [hsucceeds] at hanswer hhashes
    refine ⟨?_, rfl, hfailing, hhashes.trans ?_⟩
    · intro hhits
      show (r.server.carryOut r.keyPrefix o).1.map Reply.onRecord = _
      rw [hanswer, hhits]
      rfl
    · cases r.hits r.server.failing (.onRecord o) <;> rfl
  | count =>
    obtain ⟨hanswer, hkept⟩ := perform_commands r .count r.countKeys
    refine ⟨fun hhits => ?_, hkept.1, hkept.2.1, hkept.2.2.trans (ite_self _).symm⟩
    exact congrArg (Except.map Reply.number) (hanswer hhits)
  | stats =>
    obtain ⟨hanswer, hkept⟩ := perform_commands r .stats r.countKeys
    refine ⟨fun hhits => ?_, hkept.1, hkept.2.1, hkept.2.2.trans (ite_self _).symm⟩
    have hcount : r.countAll.1 = .error unavailable := hanswer hhits
    show (r.countAll.1.map _).map Reply.told = _
    rw [hcount]
    rfl
  | ping =>
    obtain ⟨hanswer, hkept⟩ := perform_commands r .ping fun _ => ()
    rw [snd_carryOut_ping]
    refine ⟨fun hhits => ?_, hkept.1, hkept.2.1, hkept.2.2.trans (ite_self _).symm⟩
    have hping : (r.perform [.ping] fun hashes => ((), hashes)).1 = .error unavailable :=
      hanswer hhits
    show Except.ok (Reply.healthy r.isHealthy.1) = .ok (.healthy false)
    unfold isHealthy
    split
    · next h =>
      rw [h] at hping
      cases hping
    · rfl

/-! ### Call by call -/

/-- A change that waits in a pipeline. -/
inductive Change where
  | delete (key : String)
  | write (key : String) (fields : Hash)

/-- Sets fields of a hash; its other fields stay. -/
def Hash.setAll (hash fields : Hash) : Hash :=
  fields.entries.foldl (fun hash field => hash.insert field.1 field.2) hash

/-- What a change does to the hashes when it is executed. -/
def Change.apply (hashes : Table Hash) : Change → Table Hash
  | .delete key => hashes.erase key
  | .write key fields => hashes.insert key (((hashes.get? key).getD .empty).setAll fields)

/-- The hashes of a server, and the changes that a pipeline has queued. -/
structure Connection where
  hashes : Table Hash
  queued : List Change

namespace Connection

/-- One command that does not fail. The queued changes are made on the execution, one after the
other. -/
def after (c : Connection) : Command → Connection
  | .delete key => { c with hashes := c.hashes.erase key }
  | .queueDelete key => { c with queued := c.queued ++ [.delete key] }
  | .queueWrite key fields => { c with queued := c.queued ++ [.write key fields] }
  | .execute => ⟨c.queued.foldl Change.apply c.hashes, []⟩
  | _ => c

/-- Commands one after the other, up to the first that fails; whether none did. -/
def send (fails : Command → Bool) (c : Connection) : List Command → Bool × Connection
  | [] => (true, c)
  | command :: rest => if fails command then (false, c) else (c.after command).send fails rest

end Connection

/-- Whether a command leaves the hashes as they are: it only looks at them, or waits in a
pipeline. -/
def Command.isQuiet : Command → Bool
  | .delete _ => false
  | .execute => false
  | _ => true

variable {c : Connection} {command : Command} {commands sent : List Command}
  {fails : Command → Bool}

theorem hashes_after (h : command.isQuiet = true) : (c.after command).hashes = c.hashes := by
  cases command with
  | delete key => cases h
  | execute => cases h
  | _ => rfl

theorem hashes_foldl_after (h : ∀ command ∈ sent, command.isQuiet = true) :
    (sent.foldl Connection.after c).hashes = c.hashes := by
  induction sent generalizing c with
  | nil => rfl
  | cons command rest ih =>
    obtain ⟨hfirst, hrest⟩ := List.forall_mem_cons.1 h
    rw [List.foldl_cons, ih hrest, hashes_after hfirst]

/-- Only the last command of a task is not quiet. -/
theorem commands_eq_concat (r : Redis) (t : Task) : ∃ quiet last,
    t.commands r = quiet ++ [last] ∧ ∀ command ∈ quiet, command.isQuiet = true := by
  cases t with
  | onRecord o =>
    cases o with
    | save record =>
      refine ⟨[.queueDelete (r.hashKey record.key),
        .queueWrite (r.hashKey record.key) (hashOf record)], .execute, rfl, ?_⟩
      exact List.forall_mem_cons.2 ⟨rfl, List.forall_mem_singleton.2 rfl⟩
    | fetch key => exact ⟨[], _, rfl, List.forall_mem_nil _⟩
    | remove key => exact ⟨[], _, rfl, List.forall_mem_nil _⟩
  | count => exact ⟨[], _, rfl, List.forall_mem_nil _⟩
  | stats => exact ⟨[], _, rfl, List.forall_mem_nil _⟩
  | ping => exact ⟨[], _, rfl, List.forall_mem_nil _⟩

/-- **A task that was stopped** before its last command was carried out has changed no hash. -/
theorem hashes_of_stopped (hashes : Table Hash) (h : sent <+: t.commands r)
    (hne : sent ≠ t.commands r) : (sent.foldl Connection.after ⟨hashes, []⟩).hashes = hashes := by
  obtain ⟨quiet, last, hcommands, hquiet⟩ := commands_eq_concat r t
  rw [hcommands] at h hne
  obtain heq | hbefore := List.prefix_concat_iff.1 h
  · exact absurd heq hne
  · exact hashes_foldl_after fun command hmem => hquiet command (hbefore.subset hmem)

theorem setAll_empty (fields : Hash) : Hash.setAll .empty fields = fields :=
  Table.ofList_entries fields

/-- **A task that was not stopped** has its whole effect. The deletion that is queued first leaves
no field for those that are written to stand beside. -/
theorem hashes_of_sent (r : Redis) (t : Task) (hashes : Table Hash) :
    ((t.commands r).foldl Connection.after ⟨hashes, []⟩).hashes = t.act r hashes := by
  cases t with
  | onRecord o =>
    cases o with
    | save record =>
      show (hashes.erase (r.hashKey record.key)).insert (r.hashKey record.key)
        ((((hashes.erase (r.hashKey record.key)).get? (r.hashKey record.key)).getD .empty).setAll
          (hashOf record)) = _
      rw [Table.get?_erase_self, Option.getD_none, setAll_empty]
      rfl
    | fetch key => rfl
    | remove key => rfl
  | count => rfl
  | stats => rfl
  | ping => rfl

theorem send_eq (fails : Command → Bool) (c : Connection) (commands : List Command) :
    c.send fails commands = (commands.all fun command => !fails command,
      (commands.takeWhile fun command => !fails command).foldl Connection.after c) := by
  induction commands generalizing c with
  | nil => rfl
  | cons command rest ih =>
    rw [Connection.send, List.all_cons, List.takeWhile_cons]
    cases hfails : fails command with
    | true => rfl
    | false => exact ih (c.after command)

/-- **A task call by call**: if a command fails the hashes are what they were, if none does they are
what the task makes of them. -/
theorem send_commands (r : Redis) (t : Task) (fails : Command → Bool) (hashes : Table Hash) :
    let done := (⟨hashes, []⟩ : Connection).send fails (t.commands r)
    done.1 = !(t.commands r).any fails
      ∧ done.2.hashes = if (t.commands r).any fails then hashes else t.act r hashes := by
  intro done
  have hdone : done = _ := send_eq fails ⟨hashes, []⟩ (t.commands r)
  rw [hdone]
  refine ⟨List.not_any_eq_all_not.symm, ?_⟩
  dsimp only
  split
  · next hany =>
    apply hashes_of_stopped hashes (List.takeWhile_prefix _)
    rw [ne_eq, List.takeWhile_eq_self_iff]
    intro hall
    obtain ⟨command, hmem, hfails⟩ := List.any_eq_true.1 hany
    have hgood := hall command hmem
    rw [hfails] at hgood
    cases hgood
  · next hany =>
    have hall : ∀ command ∈ t.commands r, (!fails command) = true := by
      simpa using hany
    rw [List.takeWhile_eq_self_iff.2 hall]
    exact hashes_of_sent r t hashes

/-! ### One task -/

/-- **A task is atomic**, whichever commands fail. -/
structure Atomic (r : Redis) (t : Task) : Prop where
  /-- A task that meets a failing command is a failure of the cache, -/
  unavailable : r.hits r.server.failing t = true → t ≠ .ping →
    ∃ text, (r.carryOut t).1 = .error (.cacheUnavailable text)
  /-- and leaves every hash as it was. -/
  unchanged : r.hits r.server.failing t = true → (r.carryOut t).2.server.hashes = r.server.hashes
  /-- A ping is no failure but tells that the server cannot be reached. -/
  unhealthy : r.hits r.server.failing .ping = true → (r.carryOut .ping).1 = .ok (.healthy false)
  /-- Its commands are sent up to the first that fails, -/
  tried : (r.carryOut t).2.server.received
    = r.server.received ++ tried r.server.fails (t.commands r)
  /-- and the hashes are what those before that one make of them, each by itself. -/
  sent : (r.carryOut t).2.server.hashes
    = ((⟨r.server.hashes, []⟩ : Connection).send r.server.fails (t.commands r)).2.hashes
  /-- As long as a command is left to be sent, no hash has changed. -/
  halfway : ∀ sent, sent <+: t.commands r → sent ≠ t.commands r →
    (sent.foldl Connection.after ⟨r.server.hashes, []⟩).hashes = r.server.hashes

/-- **Every task is atomic.** -/
theorem atomic_carryOut (r : Redis) (t : Task) : r.Atomic t := by
  obtain ⟨hrefused, -, -, hhashes⟩ := carryOut_cases r t
  constructor
  · intro hhits hping
    refine ⟨"Redis unavailable: down", (hrefused hhits).trans ?_⟩
    cases t with
    | ping => exact absurd rfl hping
    | _ => rfl
  · intro hhits
    rw [hhashes, if_pos hhits]
  · exact (carryOut_cases r .ping).1
  · exact received_carryOut r t
  · exact hhashes.trans (send_commands r t r.server.fails r.server.hashes).2.symm
  · exact fun sent => hashes_of_stopped r.server.hashes

/-! ### Runs -/

/-- The cache while these commands fail, and no others. -/
def during (r : Redis) (failing : List Verb) : Redis :=
  { r with server := { r.server with failing } }

/-- The cache after tasks, one after the other, each with the commands that fail during it. -/
def afterAll (r : Redis) (history : List (List Verb × Task)) : Redis :=
  history.foldl (fun r turn => ((r.during turn.1).carryOut turn.2).2) r

variable {r' : Redis}

/-- Which commands are sent, and what they do to the hashes, is told by the prefix alone. -/
theorem commands_congr (h : r.keyPrefix = r'.keyPrefix) (t : Task) :
    t.commands r = t.commands r' ∧ t.act r = t.act r' := by
  obtain ⟨keyPrefix, server⟩ := r
  obtain rfl : keyPrefix = r'.keyPrefix := h
  rcases t with ⟨⟨⟩⟩ | _ | _ | _ <;> exact ⟨rfl, rfl⟩

theorem hits_congr (h : r.keyPrefix = r'.keyPrefix) : r.hits = r'.hits := by
  funext failing t
  rw [hits, hits, (commands_congr h t).1]

theorem keyPrefix_afterAll (r : Redis) (history : List (List Verb × Task)) :
    (r.afterAll history).keyPrefix = r.keyPrefix := by
  induction history generalizing r with
  | nil => rfl
  | cons turn rest ih =>
    obtain ⟨-, hkeys, -⟩ := carryOut_cases (r.during turn.1) turn.2
    exact (ih _).trans hkeys

/-- **Failed tasks leave no trace**: the hashes after a run are what the tasks that met no failing
command have made of them. By induction on the run. -/
theorem hashes_afterAll (r : Redis) (history : List (List Verb × Task)) :
    (r.afterAll history).server.hashes = (history.filter fun turn => !r.hits turn.1 turn.2).foldl
      (fun hashes turn => turn.2.act r hashes) r.server.hashes := by
  induction history generalizing r with
  | nil => rfl
  | cons turn rest ih =>
    obtain ⟨failing, t⟩ := turn
    obtain ⟨-, hkeys, -, hhashes⟩ := carryOut_cases (r.during failing) t
    have hsame : (r.during failing).keyPrefix = r.keyPrefix := rfl
    have hact (t : Task) := (commands_congr (hkeys.trans hsame) t).2
    have hlater := ih ((r.during failing).carryOut t).2
    simp only [hits_congr (hkeys.trans hsame), hact] at hlater
    refine hlater.trans ?_
    rw [hhashes, hits_congr hsame, (commands_congr hsame t).2, List.filter_cons]
    show List.foldl _ (if r.hits failing t then _ else _) _ = _
    cases r.hits failing t with
    | true => rfl
    | false => rfl

/-! ### Records that are saved -/

/-- The fields of a record, with their texts. -/
def fieldOf (record : Record String) : String → Option String
  | "prompt" => some record.prompt
  | "intent" => some record.intentText
  | "query" => some record.query
  | "created_at" => some record.createdAt.toText
  | "result" => record.result
  | _ => none

/-- **The hash of a record** has its fields and no others. -/
theorem get?_hashOf_eq (record : Record String) (name : String) :
    (hashOf record).get? name = fieldOf record name := by
  obtain ⟨hprompt, hintent, hquery, hcreated, hresult⟩ := get?_hashOf record
  unfold fieldOf
  split
  · exact hprompt
  · exact hintent
  · exact hquery
  · exact hcreated
  · exact hresult
  · next hno₁ hno₂ hno₃ hno₄ hno₅ =>
    unfold hashOf
    cases record.result with
    | none =>
      simp [Table.ofList, Table.get?_insert, if_neg hno₁, if_neg hno₂, if_neg hno₃, if_neg hno₄]
    | some text =>
      simp [Table.ofList, Table.get?_insert, if_neg hno₁, if_neg hno₂, if_neg hno₃, if_neg hno₄,
        if_neg hno₅]

/-- A record is saved in place of what was under its key, and nothing else changes. -/
structure Overwrites (r : Redis) (record : Record String) : Prop where
  saved : (r.save record).1 = .ok ()
  /-- The hash under its key has the fields of the record and no others. -/
  fields : ∃ hash, (r.save record).2.server.hashes.get? (r.hashKey record.key) = some hash
    ∧ ∀ name, hash.get? name = fieldOf record name
  others : ∀ key, key ≠ r.hashKey record.key →
    (r.save record).2.server.hashes.get? key = r.server.hashes.get? key

/-- **A record is saved** if no command of its saving fails. -/
theorem overwrites_save {record : Record String}
    (h : r.hits r.server.failing (.onRecord (.save record)) = false) : r.Overwrites record := by
  have hgood : ((Operation.save record).commands r).all (fun c => !r.server.fails c) = true := by
    rw [show ((Operation.save record).commands r).all _ = _ from
      all_not_fails r (.onRecord (.save record)), h]
    rfl
  obtain ⟨hanswer, -, hhashes⟩ := perform_eq r ((Operation.save record).commands r)
    fun hashes => ((), (Operation.save record).act r hashes)
  rw [if_pos hgood] at hanswer hhashes
  have hget (key : String) : (r.save record).2.server.hashes.get? key
      = if key = r.hashKey record.key then some (hashOf record)
        else r.server.hashes.get? key :=
    (congrArg (Table.get? · key) hhashes).trans (get?_act r (.save record) _ key)
  refine ⟨hanswer, ⟨hashOf record, ?_, get?_hashOf_eq record⟩, fun key hkey => ?_⟩
  · rw [hget, if_pos rfl]
  · rw [hget, if_neg hkey]

/-- **A cache recovers from failures.** In every run of tasks at a server with any hashes, during
each of which any commands may fail, every task is atomic; in the end the hashes are what the tasks
that met no failing command have made of them; and a record that is saved then, while no command of
its saving fails, is there with its own fields and no others, while the other hashes stay. -/
theorem recovers_from_failures (r : Redis) (history : List (List Verb × Task)) :
    (∀ before failing t later, history = before ++ (failing, t) :: later →
      ((r.afterAll before).during failing).Atomic t)
      ∧ (r.afterAll history).server.hashes
        = (history.filter fun turn => !r.hits turn.1 turn.2).foldl
          (fun hashes turn => turn.2.act r hashes) r.server.hashes
      ∧ ∀ failing record, r.hits failing (.onRecord (.save record)) = false →
        ((r.afterAll history).during failing).Overwrites record := by
  refine ⟨fun before failing t later _ => atomic_carryOut _ t, hashes_afterAll r history, ?_⟩
  intro failing record hgood
  apply overwrites_save
  have hsame : ((r.afterAll history).during failing).keyPrefix = r.keyPrefix :=
    keyPrefix_afterAll r history
  rw [hits_congr hsame]
  exact hgood

/-- A hash with a result, whose overwriting fails at each of its commands, one after the other, and
succeeds at last while the commands of other tasks fail. -/
theorem recovers_from_failures_overwritten :
    let old : Hash := .ofList [("prompt", "tea"), ("query", "old"), ("result", "r")]
    let r : Redis := ⟨"cache", { hashes := .ofList [("cache:urn:prompt:tea", old)] }⟩
    let save : Task := .onRecord (.save (recordFor "tea"))
    let history : List (List Verb × Task) :=
      [([.queueDelete], save), ([.queueWrite], save), ([.execute], save), ([.scan, .ping], .ping)]
    (∀ turn ∈ history, r.hits turn.1 turn.2 = true)
      ∧ (r.afterAll history).server.hashes = r.server.hashes
      ∧ r.hits [.readHash, .scan] save = false
      ∧ ((r.afterAll history).during [.readHash, .scan]).Overwrites (recordFor "tea") := by
  intro old r save history
  have hgood : r.hits [.readHash, .scan] save = false := by decide
  obtain ⟨-, hhashes, hsaves⟩ := recovers_from_failures r history
  have hhits : ∀ turn ∈ history, r.hits turn.1 turn.2 = true := by
    simp only [history, List.forall_mem_cons]
    exact ⟨rfl, rfl, rfl, rfl, List.forall_mem_nil _⟩
  have hnone : (history.filter fun turn => !r.hits turn.1 turn.2) = [] := by
    rw [List.filter_eq_nil_iff]
    intro turn hturn
    rw [hhits turn hturn]
    exact Bool.false_ne_true
  rw [hnone] at hhashes
  exact ⟨hhits, hhashes, hgood, hsaves _ _ hgood⟩

end ConceptQuery.Cache.Redis
