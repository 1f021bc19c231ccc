import Pop3Serv.Net.Authentication
import Pop3Serv.Net.Locks

/-!
# One open mailbox a record

The lock is taken under the name as the client sent it, the record is found under
the name converted to a `compact_string`. On names without a NUL the conversion is
injective, so two mailboxes opened from one record are locked under one name, and
the lock table has it for one session only. With a NUL it is not: `u` and `u\0` are
two names to the table, and one to the cache.
-/

namespace Pop3Serv.Net
open Proto Mail Logic

variable {hash : Bytes → UInt64} {NameType PasswordType : KeyType}

/-- The live mailbox was opened from the record: under its own name, which converts to the record's,
the session handled a `PASS` whose argument converts to the record's password, and the mailbox
is over the storages of the record that could be created. -/
structure SessionObject.OpenedFrom (hash : Bytes → UInt64) (cache : ConsumerCache NameType PasswordType)
    (defaultPath : Path) (o : SessionObject) (m : Mailbox) (r : ConsumerInfo NameType PasswordType) : Prop where
  live : o.LiveMailbox m
  record : r ∈ cache.cachedConsumerInfos
  name : NameType.convert hash m.name = .ok r.name
  pass : ∃ before x after password, o.dialogue.log = before ++ .handled x :: after ∧
    x.result = .ok ⟨.PASS, .string password⟩ ∧ nameOf before = m.name ∧
    PasswordType.convert hash password = .ok r.password ∧
    m.storages.map (·.emails) = (createStorages (x.fs 0) defaultPath r.storages m.name).map (·.emails)

theorem SessionObject.mem_holds_of_live {o : SessionObject} {m : Mailbox} (live : o.LiveMailbox m) :
    m.name ∈ o.holds := by
  obtain ⟨d, released⟩ := o
  obtain ⟨alive, mailbox⟩ := live
  cases alive
  apply Multiset.mem_add.mpr
  apply Or.inl
  show m.name ∈ d.session.holds
  rw [POP3Session.holds, show d.session.mailbox = some m from mailbox]
  exact Multiset.mem_singleton_self _

/-- Every live mailbox was opened from a record. -/
theorem SessionObject.LiveMailbox.openedFrom {cache : ConsumerCache NameType PasswordType}
    {defaultPath : Path} {lex : Bytes → Option UInt32} {sessionId : Nat} {o : SessionObject} {m : Mailbox}
    (live : o.LiveMailbox m)
    (reached : Reached (singleConfig hash cache defaultPath lex) sessionId o.dialogue) :
    ∃ r, o.OpenedFrom hash cache defaultPath m r := by
  have mailbox := live.2
  have inside : o.dialogue.session.state = .Transaction :=
    reached.typestate.transaction_iff.mpr (by rw [mailbox]; rfl)
  have own : m.name = o.dialogue.session.userName := reached.typestate.mailboxName m mailbox
  obtain ⟨before, x, after, password, vec, m', log, pass, name, logon, hasStorages, has, storages⟩ :=
    reached.authenticated.entered inside
  obtain rfl : m = m' := Option.some.inj (mailbox.symm.trans has)
  obtain ⟨r, member, converted, checked, rfl⟩ := single_logon_ok logon
  rw [← own] at name converted storages
  exact ⟨r, live, member, converted, before, x, after, password, log, pass, name, checked, storages⟩

/-- **One open mailbox a record.** With names kept as compact strings, over any cache: in every state of
every run of the server in which no login is attempted under a name with a NUL, every live
mailbox was opened from a record, and no two from the same. -/
theorem one_mailbox_per_record {size : Nat} {cache : ConsumerCache (.compactString size) PasswordType}
    {defaultPath : Path} {lex : Bytes → Option UInt32} {es : List Event} {st : Server}
    (clean : StepsMeet (Server.step (singleConfig hash cache defaultPath lex))
      (fun st e => cleanStep (singleConfig hash cache defaultPath lex) st e = true) {} es)
    (run : exec (Server.step (singleConfig hash cache defaultPath lex)) {} es = some st) :
    (∀ (i j : Nat) (oi oj : SessionObject) (mi mj : Mailbox)
        (r : ConsumerInfo (.compactString size) PasswordType),
      st.objects[i]? = some oi → st.objects[j]? = some oj →
      oi.OpenedFrom hash cache defaultPath mi r → oj.OpenedFrom hash cache defaultPath mj r → i = j) ∧
    ∀ (i : Nat) (o : SessionObject) (m : Mailbox), st.objects[i]? = some o → o.LiveMailbox m →
      ∃ r, o.OpenedFrom hash cache defaultPath m r := by
  have locks := locksExact_of_clean clean run
  constructor
  · intro i j oi oj mi mj r at_i at_j mine yours
    have held := SessionObject.mem_holds_of_live mine.live
    have held' := SessionObject.mem_holds_of_live yours.live
    have same : mi.name = mj.name := CompactString.ofView_injective mine.name yours.name
      (locks.noNul i oi at_i mi.name held) (locks.noNul j oj at_j mj.name held')
    exact locks.table.exclusive at_i at_j held (same ▸ held')
  · intro i o m found live
    exact live.openedFrom (locks.reached i o found)

/-- The account `u` with one storage. -/
def storedU : BothStringConsumerInfo :=
  { accountU with storages := [{ storageType := .FileSystemMailStorage, count_le := Nat.zero_le _ }] }

/-- One record, its name and its password kept as strings. -/
def stringRecord : ConsumerCache (.compactString MAILBOX_NAME_MAX_LEN) (.compactString PASSWORD_MAX_LEN) where
  cachedConsumerInfos := [storedU]
  distinct := List.nodup_singleton _

/-- The server over that record. -/
abbrev stringRecordConfig : Config :=
  singleConfig (fun _ => 0) stringRecord (ascii "/mail") fun _ => none

/-- The account `v`, like that of `u`. -/
def storedV : BothStringConsumerInfo := { storedU with name := ⟨ascii "v" ++ List.replicate 31 0, rfl⟩ }

def twoRecords : ConsumerCache (.compactString MAILBOX_NAME_MAX_LEN) (.compactString PASSWORD_MAX_LEN) where
  cachedConsumerInfos := [storedU, storedV]
  distinct := by decide

/-- The server over both records. -/
abbrev twoRecordsConfig : Config :=
  singleConfig (fun _ => 0) twoRecords (ascii "/mail") fun _ => none

/-- The session is created, and logs in under the name. -/
def loginAs (sessionId : Nat) (name : Bytes) : List Event :=
  [.acceptDone false, .runAccept, .createSession, .session sessionId .startRead,
    .session sessionId (.receive (ascii "USER " ++ name ++ crlf)),
    .session sessionId (.runRead fun _ => Mailbox.oneByteFiles), .session sessionId .sent,
    .session sessionId .runWrite, .session sessionId (.receive (ascii "PASS p" ++ crlf)),
    .session sessionId (.runRead fun _ => Mailbox.oneByteFiles),
    .session sessionId (.runLogin fun _ => Mailbox.oneByteFiles)]

/-- `u` and `v` are logged in, each over a record of its own. -/
theorem one_mailbox_per_record_uv :
    ∃ st o o' m m' r r', exec (Server.step twoRecordsConfig) {} (loginAs 0 (ascii "u") ++ loginAs 1 (ascii "v")) =
        some st ∧
      st.objects[0]? = some o ∧ st.objects[1]? = some o' ∧ m.name = ascii "u" ∧ m'.name = ascii "v" ∧
      o.OpenedFrom (fun _ => 0) twoRecords (ascii "/mail") m r ∧
      o'.OpenedFrom (fun _ => 0) twoRecords (ascii "/mail") m' r' ∧ r ≠ r' := by
  obtain ⟨st, o, o', m, m', run, at_0, at_1, live, live', name, name'⟩ : ∃ st o o' m m',
      exec (Server.step twoRecordsConfig) {} (loginAs 0 (ascii "u") ++ loginAs 1 (ascii "v")) = some st ∧
        st.objects[0]? = some o ∧ st.objects[1]? = some o' ∧ o.LiveMailbox m ∧ o'.LiveMailbox m' ∧
        m.name = ascii "u" ∧ m'.name = ascii "v" :=
    ⟨_, _, _, _, _, rfl, rfl, rfl, ⟨rfl, rfl⟩, ⟨rfl, rfl⟩, rfl, rfl⟩
  obtain ⟨alone, each⟩ := one_mailbox_per_record (by decide) run
  obtain ⟨r, opened⟩ := each 0 o m at_0 live
  obtain ⟨r', opened'⟩ := each 1 o' m' at_1 live'
  refine ⟨st, o, o', m, m', r, r', run, at_0, at_1, name, name', opened, opened', ?_⟩
  rintro rfl
  cases alone 0 1 o o' m m' r at_0 at_1 opened opened'

/-- Under `u` and under `u\0` two sessions open mailboxes from the one record there is. -/
theorem two_mailboxes_of_one_record :
    ∃ (st : Server) (oi oj : SessionObject) (mi mj : Mailbox)
      (r : ConsumerInfo (.compactString MAILBOX_NAME_MAX_LEN) (.compactString PASSWORD_MAX_LEN)),
      exec (Server.step stringRecordConfig) {}
        (loginAs 0 (ascii "u") ++ loginAs 1 (ascii "u" ++ [0])) = some st ∧
      st.objects[0]? = some oi ∧ st.objects[1]? = some oj ∧
      oi.OpenedFrom (fun _ => 0) stringRecord (ascii "/mail") mi r ∧
      oj.OpenedFrom (fun _ => 0) stringRecord (ascii "/mail") mj r := by
  obtain ⟨st, oi, oj, mi, mj, run, at_0, at_1, live, live'⟩ : ∃ st oi oj mi mj,
      exec (Server.step stringRecordConfig) {}
        (loginAs 0 (ascii "u") ++ loginAs 1 (ascii "u" ++ [0])) = some st ∧
        st.objects[0]? = some oi ∧ st.objects[1]? = some oj ∧ oi.LiveMailbox mi ∧ oj.LiveMailbox mj :=
    ⟨_, _, _, _, _, rfl, rfl, rfl, ⟨rfl, rfl⟩, ⟨rfl, rfl⟩⟩
  have reached := Server.objects_reached ⟨_, run⟩
  obtain ⟨r, opened⟩ := live.openedFrom (reached 0 oi at_0)
  obtain ⟨r', opened'⟩ := live'.openedFrom (reached 1 oj at_1)
  have same : r = r' := (List.mem_singleton.mp opened.record).trans (List.mem_singleton.mp opened'.record).symm
  exact ⟨st, oi, oj, mi, mj, r, run, at_0, at_1, opened, same ▸ opened'⟩

end Pop3Serv.Net
