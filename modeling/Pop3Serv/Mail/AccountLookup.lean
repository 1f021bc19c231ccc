import Pop3Serv.Logic.Exec
import Pop3Serv.Logic.Nodes
import Pop3Serv.Mail.Refresh

/-!
# Looking an account up while others write

`getConsumerInfo` finds the record under the shared lock, gives the lock back and copies
the record after that. Any number of calls run at once; a step is one critical section
or one such copy. An `addConsumerInfo` in the gap does no harm, since the nodes of a
`std::set` stay where they are. A `refresh` in the gap erases the node, and the copy reads
what is not there any more.
-/

namespace Pop3Serv.Mail
open Logic

variable {NameType PasswordType : KeyType}

/-- `cachedConsumerInfos` with its nodes. -/
structure CacheNodes (NameType PasswordType : KeyType) where
  nodes : Nodes (ConsumerInfo NameType PasswordType)
  distinct : (nodes.elements.map (·.name)).Nodup

namespace CacheNodes

/-- The records, without the nodes they are in. -/
def toCache (c : CacheNodes NameType PasswordType) : ConsumerCache NameType PasswordType :=
  ⟨c.nodes.elements, c.distinct⟩

/-- `find`. -/
def find (c : CacheNodes NameType PasswordType) (userName : NameType.Value) : Nodes.Iterator :=
  c.nodes.findIf fun info => info.name = userName

/-- `insert`. -/
def insert (c : CacheNodes NameType PasswordType) (info : ConsumerInfo NameType PasswordType) :
    CacheNodes NameType PasswordType :=
  if missing : c.toCache.getConsumerInfo info.name = none then
    ⟨c.nodes.insert info, by rw [Nodes.elements_insert]; exact ConsumerCache.distinct_append missing⟩
  else c

def clear (c : CacheNodes NameType PasswordType) : CacheNodes NameType PasswordType :=
  ⟨c.nodes.clear, by rw [Nodes.elements_clear]; exact List.nodup_nil⟩

/-- The critical section of `addConsumerInfo`; `stored` is what `SerializeToFile` returns. -/
def addConsumerInfo (c : CacheNodes NameType PasswordType) (info : ConsumerInfo NameType PasswordType)
    (stored : Bool) : CacheNodes NameType PasswordType :=
  if c.find info.name ≠ none then c else if stored then c.insert info else c

/-- The critical section of `refresh`, with the records it decodes until the files end or an
exception ends it. -/
def refresh (c : CacheNodes NameType PasswordType) (decoded : List (ConsumerInfo NameType PasswordType)) :
    CacheNodes NameType PasswordType := decoded.foldl insert c.clear

variable (c : CacheNodes NameType PasswordType)

theorem deref_find (userName : NameType.Value) :
    c.nodes.deref (c.find userName) = c.toCache.getConsumerInfo userName := c.nodes.deref_findIf _

theorem find_eq_end_iff (userName : NameType.Value) :
    c.find userName = none ↔ c.toCache.getConsumerInfo userName = none := by
  rw [find, Nodes.findIf_eq_end_iff, ConsumerCache.getConsumerInfo, List.find?_eq_none]
  simp [toCache]

/-! ## The records -/

theorem toCache_insert (info : ConsumerInfo NameType PasswordType) :
    (c.insert info).toCache = c.toCache.insert info := by
  unfold insert ConsumerCache.insert
  split
  · rename_i missing
    split
    · simp only [toCache, Nodes.elements_insert]
    · rename_i found
      cases missing.symm.trans found
  · rename_i found
    split
    · rename_i missing
      exact absurd missing found
    · rfl

theorem toCache_clear : c.clear.toCache = .empty := by
  simp only [toCache, clear, Nodes.elements_clear]
  rfl

/-- What `addConsumerInfo` does to the cache of the storage. -/
theorem toCache_addConsumerInfo (st : FileSystemConsumerInfoStorage NameType PasswordType)
    (same : st.cache = c.toCache) (write : Json → Bytes) (info : ConsumerInfo NameType PasswordType) :
    ∃ stored, (st.addConsumerInfo write info).2.cache = (c.addConsumerInfo info stored).toCache := by
  have there : st.cache.hasMailbox info.name = true ↔ c.find info.name ≠ none := by
    rw [ConsumerCache.hasMailbox, same, Option.isSome_iff_ne_none, ne_eq, ne_eq, find_eq_end_iff]
  unfold FileSystemConsumerInfoStorage.addConsumerInfo addConsumerInfo
  by_cases cached : c.find info.name ≠ none
  · rw [if_pos (there.mpr cached)]
    exact ⟨false, by rw [if_pos cached]; exact same⟩
  · rw [if_neg (mt there.mp cached)]
    simp only [if_neg cached]
    split
    · exact ⟨true, by rw [if_pos rfl, toCache_insert, same]⟩
    · exact ⟨false, same⟩

/-- What `refresh` does to the cache once it has listed the directory. -/
theorem toCache_refresh (parse : Bytes → Option Json) (files : List (Option Bytes)) :
    ∃ decoded, (refreshCache parse (some files) c.toCache).2 = (c.refresh decoded).toCache := by
  have loop : ∀ c : CacheNodes NameType PasswordType, ∃ decoded : List (ConsumerInfo NameType PasswordType),
      (refreshFiles parse files c.toCache).2 = (decoded.foldl insert c).toCache := by
    induction files with
    | nil => exact fun c => ⟨[], rfl⟩
    | cons file files ih =>
      intro c
      rw [refreshFiles]
      split
      · exact ⟨[], rfl⟩
      · exact ih c
      · rename_i info _
        obtain ⟨decoded, made⟩ := ih (c.insert info)
        rw [toCache_insert] at made
        exact ⟨info :: decoded, made⟩
  obtain ⟨decoded, made⟩ := loop c.clear
  rw [toCache_clear] at made
  exact ⟨decoded, made⟩

/-! ## The nodes -/

theorem next_le_insert (info : ConsumerInfo NameType PasswordType) : c.nodes.next ≤ (c.insert info).nodes.next := by
  unfold insert
  split
  · exact Nat.le_succ _
  · exact Nat.le_refl _

theorem deref_insert (info : ConsumerInfo NameType PasswordType) {identity : Nat}
    (old : identity < c.nodes.next) :
    (c.insert info).nodes.deref (some identity) = c.nodes.deref (some identity) := by
  unfold insert
  split
  · exact c.nodes.deref_insert info old
  · rfl

/-- An iterator into the cache is kept by an `addConsumerInfo`. -/
theorem deref_addConsumerInfo (info : ConsumerInfo NameType PasswordType) (stored : Bool) {it : Nodes.Iterator}
    {record : ConsumerInfo NameType PasswordType} (valid : c.nodes.deref it = some record) :
    (c.addConsumerInfo info stored).nodes.deref it = some record := by
  cases it with
  | none => cases valid
  | some identity =>
    unfold addConsumerInfo
    split
    · exact valid
    · split
      · rw [c.deref_insert info (Nodes.lt_next_of_deref valid)]
        exact valid
      · exact valid

/-- No iterator into the cache is valid after a `refresh`. -/
theorem deref_refresh (decoded : List (ConsumerInfo NameType PasswordType)) {it : Nodes.Iterator}
    {record : ConsumerInfo NameType PasswordType} (valid : c.nodes.deref it = some record) :
    (c.refresh decoded).nodes.deref it = none := by
  cases it with
  | none => cases valid
  | some identity =>
    have inserted : ∀ (decoded : List (ConsumerInfo NameType PasswordType)) (c : CacheNodes NameType PasswordType),
        identity < c.nodes.next → (decoded.foldl insert c).nodes.deref (some identity) =
          c.nodes.deref (some identity) := by
      intro decoded
      induction decoded with
      | nil => exact fun c _ => rfl
      | cons info decoded ih =>
        intro c old
        have still := c.next_le_insert info
        exact (ih (c.insert info) (by omega)).trans (c.deref_insert info old)
    have old : identity < c.nodes.next := Nodes.lt_next_of_deref valid
    exact (inserted decoded c.clear old).trans (Nodes.deref_clear _ _)

end CacheNodes

/-! ## Calls -/

/-- How far a call of `getConsumerInfo` has got. -/
inductive Progress (NameType PasswordType : KeyType) where
  | called
  /-- the record is found, and the lock given back -/
  | found (it : Nodes.Iterator)
  | returned (result : Option (ConsumerInfo NameType PasswordType))
  /-- `*it` was taken where no element was left -/
  | dangling

/-- A call of `getConsumerInfo`. -/
structure Lookup (NameType PasswordType : KeyType) where
  userName : NameType.Value
  progress : Progress NameType PasswordType

/-- The cache, and the calls of `getConsumerInfo` made so far. -/
structure LookupState (NameType PasswordType : KeyType) where
  cache : CacheNodes NameType PasswordType
  calls : List (Lookup NameType PasswordType) := []

inductive LookupEvent (NameType PasswordType : KeyType) where
  | call (userName : NameType.Value)
  /-- the critical section of a call -/
  | find (n : Nat)
  /-- the copy of `*it` that a call returns -/
  | copy (n : Nat)
  | addConsumerInfo (info : ConsumerInfo NameType PasswordType) (stored : Bool)
  | refresh (decoded : List (ConsumerInfo NameType PasswordType))

namespace LookupState

def step (st : LookupState NameType PasswordType) : LookupEvent NameType PasswordType →
    Option (LookupState NameType PasswordType)
  | .call userName => some { st with calls := st.calls ++ [⟨userName, .called⟩] }
  | .find n =>
    match st.calls[n]? with
    | some ⟨userName, .called⟩ =>
      let it := st.cache.find userName
      some { st with calls := st.calls.set n ⟨userName, if it = none then .returned none else .found it⟩ }
    | _ => none
  | .copy n =>
    match st.calls[n]? with
    | some ⟨userName, .found it⟩ =>
      let progress : Progress NameType PasswordType :=
        (st.cache.nodes.deref it).elim .dangling fun info => .returned (some info)
      some { st with calls := st.calls.set n ⟨userName, progress⟩ }
    | _ => none
  | .addConsumerInfo info stored => some { st with cache := st.cache.addConsumerInfo info stored }
  | .refresh decoded => some { st with cache := st.cache.refresh decoded }

/-- At some moment of the run, after the call and before it returned, the cache held `result`
under the name. -/
def HeldDuring (start : LookupState NameType PasswordType) (es : List (LookupEvent NameType PasswordType))
    (n : Nat) (userName : NameType.Value) (result : Option (ConsumerInfo NameType PasswordType)) : Prop :=
  ∃ before after moment, es = before ++ after ∧ exec step start before = some moment ∧
    moment.calls[n]? = some ⟨userName, .called⟩ ∧ moment.cache.toCache.getConsumerInfo userName = result

/-- The iterators that calls have are valid, and what calls have returned was held while they ran. -/
structure Sound (start : LookupState NameType PasswordType) (es : List (LookupEvent NameType PasswordType))
    (st : LookupState NameType PasswordType) : Prop where
  valid : ∀ (n : Nat) (userName : NameType.Value) (it : Nodes.Iterator),
    st.calls[n]? = some ⟨userName, .found it⟩ → (st.cache.nodes.deref it).isSome = true
  defined : ∀ (n : Nat) (userName : NameType.Value), st.calls[n]? ≠ some ⟨userName, .dangling⟩
  held : ∀ (n : Nat) (userName : NameType.Value) (result : Option (ConsumerInfo NameType PasswordType)),
    st.calls[n]? = some ⟨userName, .returned result⟩ → HeldDuring start es n userName result

/-- Every state of the run is sound. -/
def Linearizable (start : LookupState NameType PasswordType)
    (es : List (LookupEvent NameType PasswordType)) : Prop :=
  ∀ before after st, es = before ++ after → exec step start before = some st → Sound start before st

/-- A call has found its record and has not copied it yet. -/
def InGap (st : LookupState NameType PasswordType) : Prop :=
  ∃ (n : Nat) (userName : NameType.Value) (it : Nodes.Iterator), st.calls[n]? = some ⟨userName, .found it⟩

/-- The step is no `refresh` while a call is in the gap. -/
def OutsideGaps (st : LookupState NameType PasswordType) (e : LookupEvent NameType PasswordType) : Prop :=
  ∀ decoded, e = .refresh decoded → ¬ st.InGap

variable {start st : LookupState NameType PasswordType} {es : List (LookupEvent NameType PasswordType)}

theorem HeldDuring.later {n : Nat} {userName : NameType.Value}
    {result : Option (ConsumerInfo NameType PasswordType)} (h : HeldDuring start es n userName result)
    (more : List (LookupEvent NameType PasswordType)) : HeldDuring start (es ++ more) n userName result := by
  obtain ⟨before, after, moment, rfl, run, called, held⟩ := h
  exact ⟨before, after ++ more, moment, by rw [List.append_assoc], run, called, held⟩

/-- What is known of a call: its iterator reads a record the cache held while it ran, or its result is
what the cache held then. -/
def Known (start : LookupState NameType PasswordType) (es : List (LookupEvent NameType PasswordType))
    (cache : CacheNodes NameType PasswordType) (n : Nat) : Lookup NameType PasswordType → Prop
  | ⟨_, .called⟩ => True
  | ⟨userName, .found it⟩ => ∃ info, cache.nodes.deref it = some info ∧
      HeldDuring start es n userName (some info)
  | ⟨userName, .returned result⟩ => HeldDuring start es n userName result
  | ⟨_, .dangling⟩ => False

/-- Every call is known. -/
def Tracks (start : LookupState NameType PasswordType) (es : List (LookupEvent NameType PasswordType))
    (st : LookupState NameType PasswordType) : Prop :=
  ∀ (n : Nat) (lookup : Lookup NameType PasswordType), st.calls[n]? = some lookup → Known start es st.cache n lookup

theorem Tracks.sound (h : Tracks start es st) : Sound start es st := by
  refine ⟨fun n userName it found => ?_, fun n userName dangling => ?_, fun n userName result returned => ?_⟩
  · obtain ⟨info, read, _⟩ := h n _ found
    rw [read]
    rfl
  · exact h n _ dangling
  · exact h n _ returned

/-- A step that keeps the iterators calls have keeps what is known of a call. -/
theorem Known.later {cache cache' : CacheNodes NameType PasswordType} {n : Nat}
    {lookup : Lookup NameType PasswordType} (h : Known start es cache n lookup)
    (kept : ∀ it info, lookup.progress = .found it → cache.nodes.deref it = some info →
      cache'.nodes.deref it = some info)
    (more : List (LookupEvent NameType PasswordType)) : Known start (es ++ more) cache' n lookup := by
  obtain ⟨userName, progress⟩ := lookup
  cases progress with
  | called => trivial
  | found it =>
    obtain ⟨info, read, held⟩ := h
    exact ⟨info, kept it info rfl read, held.later more⟩
  | returned result => exact HeldDuring.later h more
  | dangling => exact h

/-- A step that only writes the cache. -/
theorem Tracks.cache (h : Tracks start es st) (e : LookupEvent NameType PasswordType)
    {cache' : CacheNodes NameType PasswordType}
    (kept : ∀ (n : Nat) (userName : NameType.Value) (it : Nodes.Iterator) info,
      st.calls[n]? = some ⟨userName, .found it⟩ → st.cache.nodes.deref it = some info →
        cache'.nodes.deref it = some info) :
    Tracks start (es ++ [e]) { st with cache := cache' } := by
  intro n lookup there
  refine (h n lookup there).later (fun it info found read => ?_) [e]
  obtain ⟨userName, progress⟩ := lookup
  cases found
  exact kept n userName it info there read

/-- A step that only advances one call. -/
theorem Tracks.set (h : Tracks start es st) (e : LookupEvent NameType PasswordType) {n : Nat}
    {lookup : Lookup NameType PasswordType} (known : Known start (es ++ [e]) st.cache n lookup) :
    Tracks start (es ++ [e]) { st with calls := st.calls.set n lookup } := by
  intro m other there
  rw [List.getElem?_set] at there
  split at there
  · rename_i same
    split at there
    · cases there
      exact same ▸ known
    · cases there
  · exact (h m other there).later (fun _ _ _ read => read) [e]

/-- **One step** outside the gaps. -/
theorem Tracks.step {e : LookupEvent NameType PasswordType} {st' : LookupState NameType PasswordType}
    (run : exec LookupState.step start es = some st) (h : Tracks start es st) (outside : OutsideGaps st e)
    (step : st.step e = some st') : Tracks start (es ++ [e]) st' := by
  cases e with
  | call userName =>
    cases step
    intro n lookup there
    rw [List.getElem?_append] at there
    split at there
    · exact (h n lookup there).later (fun _ _ _ read => read) _
    · obtain ⟨_, new⟩ := List.getElem?_eq_some_iff.mp there
      rw [List.getElem_singleton] at new
      subst new
      trivial
  | find n =>
    simp only [LookupState.step] at step
    split at step
    · rename_i userName called
      cases step
      have held : HeldDuring start (es ++ [.find n]) n userName (st.cache.toCache.getConsumerInfo userName) :=
        ⟨es, _, st, rfl, run, called, rfl⟩
      apply h.set
      split
      · rename_i missing
        rw [(st.cache.find_eq_end_iff userName).mp missing] at held
        exact held
      · rename_i there
        obtain ⟨info, found⟩ := Option.ne_none_iff_exists'.mp (mt (st.cache.find_eq_end_iff userName).mpr there)
        rw [found] at held
        exact ⟨info, (st.cache.deref_find userName).trans found, held⟩
    · cases step
  | copy n =>
    simp only [LookupState.step] at step
    split at step
    · rename_i userName it found
      cases step
      obtain ⟨info, read, held⟩ := h n _ found
      apply h.set
      rw [read]
      exact held.later _
    · cases step
  | addConsumerInfo info stored =>
    cases step
    exact h.cache _ fun _ _ _ record _ valid => st.cache.deref_addConsumerInfo info stored valid
  | refresh decoded =>
    cases step
    exact h.cache _ fun n userName it _ found _ => absurd ⟨n, userName, it, found⟩ (outside decoded rfl)

/-- In a state where a call is in the gap with a valid iterator a `refresh` makes it invalid. -/
theorem refresh_invalidates (decoded : List (ConsumerInfo NameType PasswordType))
    (valid : ∀ (n : Nat) (userName : NameType.Value) (it : Nodes.Iterator),
      st.calls[n]? = some ⟨userName, .found it⟩ → (st.cache.nodes.deref it).isSome = true)
    (gap : st.InGap) : ∃ st', st.step (.refresh decoded) = some st' ∧ ∃ (n : Nat) (userName : NameType.Value)
      (it : Nodes.Iterator), st'.calls[n]? = some ⟨userName, .found it⟩ ∧ st'.cache.nodes.deref it = none := by
  obtain ⟨n, userName, it, found⟩ := gap
  obtain ⟨record, read⟩ := Option.isSome_iff_exists.mp (valid n userName it found)
  exact ⟨_, rfl, n, userName, it, found, st.cache.deref_refresh decoded read⟩

end LookupState

/-- **Account lookup is linearizable** exactly in the runs in which no `refresh` comes between the find
of a call and its copy: in every state of the run every iterator a call has is valid, and every
result returned is what the cache held under the name at some moment of the call. -/
theorem lookup_linearizable_iff (cache : CacheNodes NameType PasswordType)
    (es : List (LookupEvent NameType PasswordType)) :
    LookupState.Linearizable { cache } es ↔ StepsMeet LookupState.step LookupState.OutsideGaps { cache } es := by
  constructor
  · intro linearizable
    -- the iterators alone, from whatever state the rest of the run starts in
    have all : ∀ (es : List (LookupEvent NameType PasswordType)) (now : LookupState NameType PasswordType),
        (∀ before after st, es = before ++ after → exec LookupState.step now before = some st →
          ∀ (n : Nat) (userName : NameType.Value) (it : Nodes.Iterator),
            st.calls[n]? = some ⟨userName, .found it⟩ → (st.cache.nodes.deref it).isSome = true) →
        StepsMeet LookupState.step LookupState.OutsideGaps now es := by
      intro es
      induction es with
      | nil => exact fun _ _ => trivial
      | cons e es ih =>
        intro now valid
        constructor
        · rintro decoded rfl gap
          obtain ⟨st', step, n, userName, it, found, gone⟩ :=
            LookupState.refresh_invalidates decoded (valid [] _ now rfl rfl) gap
          have still := valid [.refresh decoded] es st' rfl (by rw [exec_cons, step]; rfl) n userName it found
          rw [gone] at still
          cases still
        · intro next step
          refine ih next fun before after st split run => valid (e :: before) after st (by rw [split]; rfl) ?_
          rw [exec_cons, step]
          exact run
    exact all es { cache } fun before after st split run => (linearizable before after st split run).valid
  · rintro outside before after st rfl run
    refine LookupState.Tracks.sound (exec_history_of (LookupState.Tracks { cache }) LookupState.OutsideGaps
      (fun es t e u run here meets step => here.step run meets step) ?_ outside.of_append run)
    intro n lookup missing
    cases missing

/-- A cache with the account `u` alone. -/
def accountNodes : CacheNodes (.compactString MAILBOX_NAME_MAX_LEN) (.compactString PASSWORD_MAX_LEN) where
  nodes := Nodes.empty.insert accountU
  distinct := List.nodup_singleton _

/-- A `refresh` between find and copy: the directory still has the account, and the cache again, but in
a node of its own. The copy is taken of the element that was erased. -/
theorem refresh_in_gap :
    (∃ st, exec LookupState.step { cache := accountNodes }
        [.call accountU.name, .find 0, .refresh [accountU], .copy 0] = some st ∧
      st.calls = [⟨accountU.name, .dangling⟩]) ∧
      ¬ LookupState.Linearizable { cache := accountNodes }
        [.call accountU.name, .find 0, .refresh [accountU], .copy 0] := by
  have runs : ∃ st, exec LookupState.step { cache := accountNodes }
      [.call accountU.name, .find 0, .refresh [accountU], .copy 0] = some st ∧
    st.calls = [⟨accountU.name, .dangling⟩] := ⟨_, rfl, rfl⟩
  refine ⟨runs, fun linearizable => ?_⟩
  obtain ⟨st, run, calls⟩ := runs
  apply (linearizable _ [] st (List.append_nil _).symm run).defined 0 accountU.name
  rw [calls]
  rfl

end Pop3Serv.Mail
