import ConceptQuery.Cache.Record
import ConceptQuery.Json.Value
import ConceptQuery.Table
import ConceptQuery.Text.Glob
import ConceptQuery.Time.Reader

/-!
# The Redis backend

Each record is a hash under its key, after a prefix that sets this cache apart from other users of
the same server.

* `Redis.Command` — what is said to the server;
* `Redis.Server` — the hashes, the commands that fail, and the commands received so far;
* `Redis` — a server and the prefix of the keys;
* `Redis.hashKey`, `Redis.keyPattern` — the key of a hash, and the pattern for all keys;
* `Redis.hashOf`, `Redis.recordOf` — the hash of a record, and the record of a hash;
* `Redis.fetch`, `Redis.save`, `Redis.remove`, `Redis.countAll`, `Redis.stats`,
  `Redis.isHealthy` — the operations of the cache.
-/

namespace ConceptQuery.Cache

/-- A hash: texts by field. -/
abbrev Redis.Hash := Table String

/-- The kinds of commands. The queued ones wait for the execution of their pipeline. -/
inductive Redis.Verb where
  | connect
  | readHash
  | delete
  | queueDelete
  | queueWrite
  | execute
  | scan
  | ping
deriving Repr, DecidableEq

/-- A command to the server. -/
inductive Redis.Command where
  | connect (url : String) (password : Option String)
  | readHash (key : String)
  | delete (key : String)
  | queueDelete (key : String)
  | queueWrite (key : String) (hash : Redis.Hash)
  | execute
  /-- Asks for the keys that match a pattern. -/
  | scan (pattern : String)
  | ping

/-- The kind of a command. -/
def Redis.Command.verb : Redis.Command → Redis.Verb
  | .connect _ _ => .connect
  | .readHash _ => .readHash
  | .delete _ => .delete
  | .queueDelete _ => .queueDelete
  | .queueWrite _ _ => .queueWrite
  | .execute => .execute
  | .scan _ => .scan
  | .ping => .ping

/-- A server: hashes by key, the kinds of commands that fail, the answer to a ping, and the
commands received so far, the earliest first. -/
structure Redis.Server where
  hashes : Table Redis.Hash := .empty
  failing : List Redis.Verb := []
  pong : Json := .bool true
  received : List Redis.Command := []
deriving Inhabited

/-- A server, and the prefix of the keys of this cache. -/
structure Redis where
  keyPrefix : String
  server : Redis.Server
deriving Inhabited

namespace Redis

/-- The failure of an operation one of whose commands fails. -/
def unavailable : Failure := .cacheUnavailable "Redis unavailable: down"

/-- Whether commands like this one fail. -/
def Server.fails (s : Server) (c : Command) : Bool :=
  s.failing.contains c.verb

/-- The server after it has received a command. -/
def Server.receive (s : Server) (c : Command) : Server :=
  { s with received := s.received ++ [c] }

/-- Sends commands one after the other up to the first that fails; whether none did. -/
def Server.receiveAll (s : Server) : List Command → Bool × Server
  | [] => (true, s)
  | c :: rest => if s.fails c then (false, s.receive c) else (s.receive c).receiveAll rest

/-- Sends commands; if none fails, something happens to the hashes. -/
def perform {α : Type} (r : Redis) (commands : List Command)
    (act : Table Hash → α × Table Hash) : Except Failure α × Redis :=
  match r.server.receiveAll commands with
  | (false, server) => (.error unavailable, { r with server })
  | (true, server) =>
    let (a, hashes) := act server.hashes
    (.ok a, { r with server := { server with hashes } })

/-- The beginning of all keys of this cache. -/
def keyStart (r : Redis) : String :=
  r.keyPrefix ++ ":"

/-- The key of a hash. -/
def hashKey (r : Redis) (key : String) : String :=
  r.keyStart ++ key

/-- The hash of a record. -/
def hashOf (r : Record String) : Hash :=
  .ofList ([("prompt", r.prompt), ("intent", r.intentText), ("query", r.query),
    ("created_at", r.createdAt.toText)] ++ (r.result.map fun text => ("result", text)).toList)

/-- The failure of a hash that is no record of a key. -/
def malformed (key reason : String) : Failure :=
  .cacheUnavailable ("Malformed cache record " ++ key ++ ": " ++ reason)

/-- A field that every record has. -/
def need (key : String) (hash : Hash) (name : String) : Except Failure String :=
  match hash.get? name with
  | some text => .ok text
  | none => .error (malformed key (Failure.missingKey (.string name)).message)

/-- The time of a record. -/
def timeOf (key text : String) : Except Failure Timestamp :=
  match Timestamp.readUtc text with
  | .error (.invalidValue reason) => .error (malformed key reason)
  | outcome => outcome

/-- The record of a hash that has fields. -/
def recordOfHash (key : String) (hash : Hash) : Except Failure (Record String) := do
  let prompt ← need key hash "prompt"
  let intentText ← need key hash "intent"
  let query ← need key hash "query"
  let createdAt ← timeOf key (← need key hash "created_at")
  return { key, prompt, intentText, query, result := hash.get? "result", createdAt }

/-- The record of the hash under a key, if there is a hash with any fields. -/
def recordOf (key : String) : Option Hash → Except Failure (Option (Record String))
  | none => .ok none
  | some hash => if hash.size = 0 then .ok none else (recordOfHash key hash).map some

/-- The record of a key. -/
def fetch (r : Redis) (key : String) : Except Failure (Option (Record String)) × Redis :=
  let (hash, r) := r.perform [.readHash (r.hashKey key)] fun hashes =>
    (hashes.get? (r.hashKey key), hashes)
  (hash >>= recordOf key, r)

/-- Writes a record in place of the hash under its key, of which no field stays. -/
def save (r : Redis) (record : Record String) : Except Failure Unit × Redis :=
  let key := r.hashKey record.key
  let hash := hashOf record
  r.perform [.queueDelete key, .queueWrite key hash, .execute] fun hashes =>
    ((), (hashes.erase key).insert key hash)

/-- Deletes the record of a key. -/
def remove (r : Redis) (key : String) : Except Failure Unit × Redis :=
  r.perform [.delete (r.hashKey key)] fun hashes => ((), hashes.erase (r.hashKey key))

/-- The pattern for all keys of this cache. The prefix stands in it as it is, and what has a meaning
in patterns has it there too. -/
def keyPattern (r : Redis) : String :=
  r.keyStart ++ "*"

/-- The number of keys that match the pattern. -/
def countKeys (r : Redis) (hashes : Table Hash) : Int :=
  (hashes.keys.countP (Text.Glob.accepts r.keyPattern) : Nat)

/-- The number of keys that match the pattern for those of this cache. -/
def countAll (r : Redis) : Except Failure Int × Redis :=
  r.perform [.scan r.keyPattern] fun hashes => (r.countKeys hashes, hashes)

/-- What there is to tell about the records. -/
def stats (r : Redis) : Except Failure Stats × Redis :=
  let (total, r) := r.countAll
  (total.map fun n => ⟨"redis", some ("key_prefix", r.keyPrefix), n⟩, r)

/-- Whether the server answers a ping. -/
def isHealthy (r : Redis) : Bool × Redis :=
  match r.perform [.ping] fun hashes => ((), hashes) with
  | (.ok _, r) => (r.server.pong.truthy, r)
  | (.error _, r) => (false, r)

end Redis

end ConceptQuery.Cache
