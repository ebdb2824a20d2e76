import Mathlib.Data.List.Forall2
import TitanSSH.Core.Monitor.Worker

namespace TitanSSH.Monitor

open Text

/-! The network part of the snapshots of a monitoring run, told from the lines of
the outputs. -/

def statusLine : List Char := "NETWORK_STATUS=available".toList

/-- What stands after the key of each `NET=` line that is not about the loopback. -/
def netValues (lines : List (List Char)) : List (List Char) :=
  (lines.filterMap (stripPrefix "NET=")).filter (!isLoopback ·)

def counters (output : List Char) : List NetworkCounter :=
  (netValues (lines output)).filterMap parseNetworkCounter

/-- A name that is not empty, and exactly two counters of 64 bits. -/
def WellFormed (value : List Char) : Prop :=
  ∃ name receive transmit, value.splitOn ',' = [name, receive, transmit] ∧
    trim name ≠ [] ∧ (parseU64 receive).isSome = true ∧
    (parseU64 transmit).isSome = true

def NetworkAvailable (output : List Char) : Prop :=
  statusLine ∈ lines output ∧
    ∀ value, "NET=".toList ++ value ∈ lines output →
      isLoopback value = false → WellFormed value

/-- What the service keeps of a collection for the next one. -/
def networkSample? (collection : Collection) : Option NetworkSample :=
  if statusLine ∈ lines collection.output ∧
      ∀ value ∈ netValues (lines collection.output),
        (parseNetworkCounter value).isSome = true then
    some ⟨collection.timestamp, counters collection.output⟩
  else none

def usageKeys : List String :=
  ["CPU_TOTAL=", "CPU_IDLE=", "MEM_TOTAL_KB=", "MEM_AVAILABLE_KB=", "DISK=",
    "DISK_AVAIL=", "DISK_TOTAL="]

def isUsageLine (line : List Char) : Bool :=
  usageKeys.any fun key => key.toList.isPrefixOf line

def usageLines (output : List Char) : List (List Char) :=
  (lines output).filter isUsageLine

/-- The value of one rate: `isElapsed` says which intervals count. -/
def RateOf (isElapsed : ℤ → Prop) (count : NetworkCounter → ℕ)
    (previous : Option Collection) (current : Collection)
    (counter : NetworkCounter) (rate : Option ℕ) : Prop :=
  ∀ value, rate = some value ↔
    ∃ earlier old, previous = some earlier ∧ NetworkAvailable earlier.output ∧
      (counters earlier.output).find? (·.name == counter.name) = some old ∧
      count old ≤ count counter ∧
      isElapsed (current.timestamp - earlier.timestamp) ∧
      value = min ((count counter - count old) * 1000 /
        (current.timestamp - earlier.timestamp).toNat) (2 ^ 64 - 1)

structure Shows (isElapsed : ℤ → Prop) (previous : Option Collection)
    (current : Collection) (counter : NetworkCounter) (item : NetworkInterface) :
    Prop where
  named : item.name = counter.name
  receive : RateOf isElapsed NetworkCounter.receiveBytes previous current counter
    item.receiveBytesPerSecond
  transmit : RateOf isElapsed NetworkCounter.transmitBytes previous current counter
    item.transmitBytesPerSecond

/-- An interval of positive length that the 64 bits of a timestamp can count. -/
def countable (elapsed : ℤ) : Prop :=
  0 < elapsed ∧ elapsed < 2 ^ 63

/-! Single lines. -/

variable {Usage : Type} {f64 : F64 Usage} {key : String}
variable {line value : List Char}

theorem stripPrefix_eq_some :
    stripPrefix key line = some value ↔ key.toList ++ value = line :=
  List.isPrefixOf?_eq_some_iff_append_eq

theorem readNetworkLine_of_head (network : NetworkReadings)
    (other : line.head? ≠ some 'N') : readNetworkLine network line = network := by
  have notStatus : line ≠ "NETWORK_STATUS=available".toList := by
    rintro rfl
    exact other rfl
  unfold readNetworkLine
  rw [if_neg notStatus]
  split
  · next value stripped =>
      rw [← stripPrefix_eq_some.mp stripped] at other
      exact absurd rfl other
  · rfl

theorem usageReaders_key {reader : String × (List Char → Readings Usage →
    Readings Usage)} (member : reader ∈ usageReaders f64) :
    reader.1 ∈ usageKeys := by
  have keys : (usageReaders f64).map Prod.fst = usageKeys := rfl
  exact keys ▸ List.mem_map_of_mem member

theorem usageReaders_head :
    ∀ reader ∈ usageReaders f64, reader.1.toList ≠ [] ∧
      reader.1.toList.head? ≠ some 'N' := by
  have keys : ∀ key ∈ usageKeys, key.toList ≠ [] ∧
      key.toList.head? ≠ some 'N' := by decide
  exact fun reader member => keys reader.1 (usageReaders_key member)

theorem readNetworkLine_of_usage {usages after : Readings Usage}
    (network : NetworkReadings)
    (read : readUsageLine? f64 line usages = some after) :
    readNetworkLine network line = network := by
  obtain ⟨reader, member, found⟩ := List.exists_of_findSome?_eq_some read
  obtain ⟨value, stripped, -⟩ := Option.map_eq_some_iff.mp found
  obtain ⟨keyed, other⟩ := usageReaders_head reader member
  apply readNetworkLine_of_head
  rw [← stripPrefix_eq_some.mp stripped, List.head?_append_of_ne_nil _ keyed]
  exact other

theorem readLine_eq (readings : Readings Usage × NetworkReadings)
    (line : List Char) :
    readLine f64 readings line =
      ((readUsageLine? f64 line readings.1).getD readings.1,
        readNetworkLine readings.2 line) := by
  unfold readLine
  cases read : readUsageLine? f64 line readings.1 with
  | none => rfl
  | some usages => simp [readNetworkLine_of_usage _ read]

theorem foldl_readLine (lines : List (List Char))
    (readings : Readings Usage × NetworkReadings) :
    lines.foldl (readLine f64) readings =
      (lines.foldl
        (fun usages line => (readUsageLine? f64 line usages).getD usages)
        readings.1,
        lines.foldl readNetworkLine readings.2) := by
  induction lines generalizing readings with
  | nil => rfl
  | cons line rest induction =>
      rw [List.foldl_cons, induction, readLine_eq]
      rfl

/-! The lines of one output. -/

theorem foldl_readNetworkLine (lines : List (List Char))
    (network : NetworkReadings) :
    lines.foldl readNetworkLine network =
      ⟨network.available || decide (statusLine ∈ lines),
        network.parseFailed ||
          (netValues lines).any fun value => (parseNetworkCounter value).isNone,
        network.interfaces ++
          (netValues lines).filterMap parseNetworkCounter⟩ := by
  induction lines generalizing network with
  | nil => simp [netValues]
  | cons line rest induction =>
      rw [List.foldl_cons, induction, readNetworkLine]
      split
      · next isStatus =>
          have plain : stripPrefix "NET=" line = none := by
            rw [isStatus]
            decide
          have same : statusLine = line := isStatus.symm
          simp [netValues, plain, same]
      · next notStatus =>
          have other : statusLine ≠ line := Ne.symm notStatus
          cases stripped : stripPrefix "NET=" line with
          | none => simp [netValues, stripped, other]
          | some value =>
              cases loopback : isLoopback value with
              | true =>
                  simp [netValues, stripped, other, readNetworkCounter, loopback]
              | false =>
                  cases parsed : parseNetworkCounter value with
                  | none =>
                      simp [netValues, stripped, other, readNetworkCounter,
                        loopback, parsed]
                  | some counter =>
                      simp [netValues, stripped, other, readNetworkCounter,
                        loopback, parsed]

theorem parseNetworkCounter_isSome (notLoopback : isLoopback value = false) :
    (parseNetworkCounter value).isSome = true ↔ WellFormed value := by
  unfold parseNetworkCounter WellFormed
  have notLo : ∀ name rest, value.splitOn ',' = name :: rest →
      trim name ≠ "lo".toList := by
    intro name rest fields
    simpa [isLoopback, fields] using notLoopback
  constructor
  · intro parsed
    split at parsed
    · next name receive transmit rest fields =>
        cases first : parseU64 receive with
        | none => simp [first] at parsed
        | some receiveBytes =>
            cases second : parseU64 transmit with
            | none => simp [first, second] at parsed
            | some transmitBytes =>
                simp only [first, second, Option.bind_eq_bind,
                  Option.bind_some] at parsed
                split at parsed
                · next accepted =>
                    obtain ⟨-, nonempty, rfl⟩ := accepted
                    exact ⟨name, receive, transmit, fields, nonempty,
                      by simp [first], by simp [second]⟩
                · cases parsed
    · cases parsed
  · rintro ⟨name, receive, transmit, fields, nonempty, first, second⟩
    obtain ⟨receiveBytes, first⟩ := Option.isSome_iff_exists.mp first
    obtain ⟨transmitBytes, second⟩ := Option.isSome_iff_exists.mp second
    rw [fields]
    have accepted : trim name ≠ "lo".toList ∧ trim name ≠ [] ∧ True :=
      ⟨notLo name _ fields, nonempty, trivial⟩
    simp only [first, second, Option.bind_eq_bind, Option.bind_some,
      if_pos accepted, Option.isSome_some]

theorem networkSample?_isSome (collection : Collection) :
    (networkSample? collection).isSome = true ↔
      NetworkAvailable collection.output := by
  unfold networkSample? NetworkAvailable
  have values : (∀ value ∈ netValues (lines collection.output),
        (parseNetworkCounter value).isSome = true) ↔
      ∀ value, "NET=".toList ++ value ∈ lines collection.output →
        isLoopback value = false → WellFormed value := by
    constructor
    · intro parses value member notLoopback
      apply (parseNetworkCounter_isSome notLoopback).mp
      apply parses value
      refine List.mem_filter.mpr ⟨List.mem_filterMap.mpr ⟨_, member, ?_⟩, ?_⟩
      · exact stripPrefix_eq_some.mpr rfl
      · simp [notLoopback]
    · intro formed value member
      obtain ⟨stripped, kept⟩ := List.mem_filter.mp member
      obtain ⟨line, inOutput, found⟩ := List.mem_filterMap.mp stripped
      have notLoopback : isLoopback value = false := by simpa using kept
      apply (parseNetworkCounter_isSome notLoopback).mpr
      apply formed value _ notLoopback
      exact (stripPrefix_eq_some.mp found).symm ▸ inOutput
  rw [← values]
  split
  · next holds => simpa using holds
  · next fails => simpa using fails

theorem networkSample?_eq_some {collection : Collection} {sample : NetworkSample}
    (found : networkSample? collection = some sample) :
    sample = ⟨collection.timestamp, counters collection.output⟩ := by
  unfold networkSample? at found
  split at found
  · exact (Option.some.inj found).symm
  · cases found

/-- The usages in an output, which its lines about the network do not touch. -/
def usagesOf (f64 : F64 Usage) (output : List Char) : Readings Usage :=
  (lines output).foldl
    (fun usages line => (readUsageLine? f64 line usages).getD usages) {}

def cpuSampleOf (f64 : F64 Usage) (output : List Char) : Option CpuSample :=
  zipCpu (usagesOf f64 output).cpuTotal (usagesOf f64 output).cpuIdle

def networkOf (previous current : Option NetworkSample) : NetworkSnapshot :=
  match current with
  | some sample => ⟨true, computeNetworkRates previous sample⟩
  | none => ⟨false, []⟩

def snapshotOf (f64 : F64 Usage) (sessionId : String)
    (previousCpu : Option CpuSample) (previousNetwork : Option NetworkSample)
    (collection : Collection) : MonitorSnapshot Usage where
  sessionId := sessionId
  timestamp := collection.timestamp
  cpuUsage :=
    computeCpuUsage f64 previousCpu (cpuSampleOf f64 collection.output)
  memoryUsage :=
    resolveMemoryUsage f64 (usagesOf f64 collection.output).memoryTotalKb
      (usagesOf f64 collection.output).memoryAvailableKb
  diskUsage := (usagesOf f64 collection.output).diskUsage
  diskAvailableBytes := (usagesOf f64 collection.output).diskAvailableBytes
  diskTotalBytes := (usagesOf f64 collection.output).diskTotalBytes
  network := networkOf previousNetwork (networkSample? collection)

theorem parseSnapshotAt_eq (sessionId : String) (output : List Char)
    (previousCpu : Option CpuSample) (previousNetwork : Option NetworkSample)
    (timestamp : ℤ) :
    parseSnapshotAt f64 sessionId output previousCpu previousNetwork timestamp =
      .ok (snapshotOf f64 sessionId previousCpu previousNetwork
          ⟨output, timestamp⟩,
        cpuSampleOf f64 output, networkSample? ⟨output, timestamp⟩) := by
  have accepted : (decide (statusLine ∈ lines output) &&
        !(netValues (lines output)).any
          fun value => (parseNetworkCounter value).isNone) = true ↔
      statusLine ∈ lines output ∧ ∀ value ∈ netValues (lines output),
        (parseNetworkCounter value).isSome = true := by
    simp [Option.isSome_iff_ne_none]
  unfold parseSnapshotAt
  rw [foldl_readLine, foldl_readNetworkLine]
  simp only [Bool.false_or, List.nil_append]
  by_cases available : statusLine ∈ lines output ∧
      ∀ value ∈ netValues (lines output),
        (parseNetworkCounter value).isSome = true
  · rw [if_pos (accepted.mpr available)]
    simp only [snapshotOf, networkSample?, if_pos available]
    rfl
  · rw [if_neg (fun holds => available (accepted.mp holds))]
    simp only [snapshotOf, networkSample?, if_neg available]
    rfl

/-! The rates of one snapshot. -/

theorem parseU64_lt {text : List Char} {count : ℕ}
    (parsed : parseU64 text = some count) : count < 2 ^ 64 := by
  unfold parseU64 at parsed
  cases read : parseUnsigned u64Bound (trim text) with
  | error error => simp [read, Except.toOption] at parsed
  | ok found =>
      obtain rfl : found = count := by simpa [read, Except.toOption] using parsed
      exact parseUnsigned_lt (by decide) read

theorem parseNetworkCounter_lt {counter : NetworkCounter}
    (parsed : parseNetworkCounter value = some counter) :
    counter.receiveBytes < 2 ^ 64 ∧ counter.transmitBytes < 2 ^ 64 := by
  unfold parseNetworkCounter at parsed
  split at parsed
  · simp only [Option.bind_eq_bind, Option.bind_eq_some_iff] at parsed
    obtain ⟨receiveBytes, first, transmitBytes, second, accepted⟩ := parsed
    split at accepted
    · obtain rfl := Option.some.inj accepted
      exact ⟨parseU64_lt first, parseU64_lt second⟩
    · cases accepted
  · cases parsed

theorem lt_of_mem_counters {output : List Char} {counter : NetworkCounter}
    (member : counter ∈ counters output) :
    counter.receiveBytes < 2 ^ 64 ∧ counter.transmitBytes < 2 ^ 64 := by
  obtain ⟨value, -, parsed⟩ := List.mem_filterMap.mp member
  exact parseNetworkCounter_lt parsed

theorem rateBetween_eq_some {previous current rate : ℕ} {before after : ℤ}
    (small : current < 2 ^ 64) :
    rateBetween previous current before after = some rate ↔
      previous ≤ current ∧ countable (after - before) ∧
        rate = min ((current - previous) * 1000 / (after - before).toNat)
          (2 ^ 64 - 1) := by
  have product : (current - previous) * 1000 % 2 ^ 128 =
      (current - previous) * 1000 := by
    apply Nat.mod_eq_of_lt
    omega
  have result (quotient : ℕ) : min quotient (2 ^ 64 - 1) % 2 ^ 64 =
      min quotient (2 ^ 64 - 1) := by
    apply Nat.mod_eq_of_lt
    omega
  unfold rateBetween checkedSubI64 checkedSubU64 countable
  simp only [result, Option.bind_eq_bind]
  by_cases fits : -2 ^ 63 ≤ after - before ∧ after - before < 2 ^ 63
  · rw [if_pos fits, Option.bind_some]
    by_cases grown : previous ≤ current
    · rw [if_pos grown, Option.bind_some, product]
      by_cases elapsed : 0 < after - before
      · rw [if_pos elapsed, Option.some.injEq]
        exact ⟨fun same => ⟨grown, ⟨elapsed, fits.2⟩, same.symm⟩,
          fun holds => holds.2.2.symm⟩
      · rw [if_neg elapsed]
        exact ⟨nofun, fun holds => absurd holds.2.1.1 elapsed⟩
    · simp [grown]
  · rw [if_neg fits, Option.bind_none]
    constructor
    · nofun
    · rintro ⟨-, ⟨positive, below⟩, -⟩
      omega

theorem rateOf_bind (count : NetworkCounter → ℕ) {counter : NetworkCounter}
    (small : count counter < 2 ^ 64) (previous : Option Collection)
    (current : Collection) :
    RateOf countable count previous current counter
      (((previous.bind networkSample?).bind fun sample =>
        (sample.interfaces.find? (·.name == counter.name)).map fun candidate =>
          (sample, candidate)).bind fun found =>
        rateBetween (count found.2) (count counter) found.1.timestamp
          current.timestamp) := by
  intro value
  simp only [Option.bind_eq_some_iff, Option.map_eq_some_iff]
  constructor
  · rintro ⟨-, ⟨sample, ⟨earlier, rfl, sampled⟩, old, found, rfl⟩, rated⟩
    have available := (networkSample?_isSome earlier).mp (by simp [sampled])
    obtain rfl := networkSample?_eq_some sampled
    obtain ⟨grown, elapsed, same⟩ := (rateBetween_eq_some small).mp rated
    exact ⟨earlier, old, rfl, available, found, grown, elapsed, same⟩
  · rintro ⟨earlier, old, rfl, available, found, grown, elapsed, same⟩
    obtain ⟨sample, sampled⟩ := Option.isSome_iff_exists.mp
      ((networkSample?_isSome earlier).mpr available)
    have sampleEq := networkSample?_eq_some sampled
    subst sampleEq
    exact ⟨_, ⟨_, ⟨earlier, rfl, sampled⟩, old, found, rfl⟩,
      (rateBetween_eq_some small).mpr ⟨grown, elapsed, same⟩⟩

/-- Every counter of the output has its interface, in the order of the output. -/
theorem shows_computeNetworkRates (previous : Option Collection)
    (current : Collection) :
    List.Forall₂ (Shows countable previous current) (counters current.output)
      (computeNetworkRates (previous.bind networkSample?)
        ⟨current.timestamp, counters current.output⟩) := by
  apply List.forall₂_map_right_iff.mpr
  apply List.forall₂_same.mpr
  intro counter member
  obtain ⟨receives, transmits⟩ := lt_of_mem_counters member
  exact ⟨rfl, rateOf_bind _ receives previous current,
    rateOf_bind _ transmits previous current⟩

/-! The snapshots of a run. -/

variable {sessionId : String} {cpu : Option CpuSample}
variable {network : Option NetworkSample}

theorem runMonitorLoop_cons (collection : Collection) (rest : List Collection) :
    runMonitorLoop f64 sessionId cpu network (collection :: rest) =
      snapshotOf f64 sessionId cpu network collection ::
        runMonitorLoop f64 sessionId (cpuSampleOf f64 collection.output)
          (networkSample? collection) rest := by
  rw [runMonitorLoop, parseSnapshotAt_eq]

theorem length_runMonitorLoop (collections : List Collection) :
    (runMonitorLoop f64 sessionId cpu network collections).length =
      collections.length := by
  induction collections generalizing cpu network with
  | nil => rfl
  | cons collection rest induction =>
      rw [runMonitorLoop_cons, List.length_cons, induction, List.length_cons]

/-- Each snapshot is made with the samples of the collection right before it. -/
theorem runMonitorLoop_at (before : List Collection) (current : Collection)
    (after : List Collection) :
    (runMonitorLoop f64 sessionId cpu network
        (before ++ current :: after))[before.length]? =
      some (snapshotOf f64 sessionId
        (before.getLast?.elim cpu fun earlier => cpuSampleOf f64 earlier.output)
        (before.getLast?.elim network networkSample?) current) := by
  induction before generalizing cpu network with
  | nil => simp [runMonitorLoop_cons]
  | cons first rest induction =>
      rw [List.cons_append, runMonitorLoop_cons, List.length_cons,
        List.getElem?_cons_succ, induction]
      cases rest with
      | nil => rfl
      | cons second rest => simp [List.getLast?_cons]

/-! The lines about the network touch nothing else. -/

def withoutNetwork (snapshot : MonitorSnapshot Usage) : MonitorSnapshot Usage :=
  { snapshot with network := ⟨false, []⟩ }

/-- Two collections that differ in lines about the network at most. -/
structure SameUsages (first second : Collection) : Prop where
  timestamp : first.timestamp = second.timestamp
  usages : usageLines first.output = usageLines second.output

theorem readUsageLine?_of_other {usages : Readings Usage}
    (other : isUsageLine line = false) :
    readUsageLine? f64 line usages = none := by
  apply List.findSome?_eq_none_iff.mpr
  intro reader member
  have unfit := List.any_eq_false.mp other reader.1 (usageReaders_key member)
  rw [← List.isSome_isPrefixOf?_eq_isPrefixOf, Bool.not_eq_true,
    Option.isSome_eq_false_iff, Option.isNone_iff_eq_none] at unfit
  rw [stripPrefix, unfit]
  rfl

theorem usagesOf_eq (output : List Char) :
    usagesOf f64 output =
      (usageLines output).foldl
        (fun usages line => (readUsageLine? f64 line usages).getD usages) {} := by
  unfold usagesOf usageLines
  generalize ({} : Readings Usage) = start
  induction lines output generalizing start with
  | nil => rfl
  | cons line rest induction =>
      rw [List.foldl_cons, induction, List.filter_cons]
      cases fits : isUsageLine line with
      | true => rfl
      | false => rw [readUsageLine?_of_other fits]; rfl

theorem snapshotOf_sameUsages {first second : Collection}
    (same : SameUsages first second) (others : Option NetworkSample) :
    withoutNetwork (snapshotOf f64 sessionId cpu network first) =
      withoutNetwork (snapshotOf f64 sessionId cpu others second) := by
  have usages : usagesOf f64 first.output = usagesOf f64 second.output := by
    rw [usagesOf_eq, usagesOf_eq, same.usages]
  simp [withoutNetwork, snapshotOf, cpuSampleOf, usages, same.timestamp]

theorem runMonitorLoop_sameUsages {first second : List Collection}
    (same : List.Forall₂ SameUsages first second)
    (others : Option NetworkSample) :
    (runMonitorLoop f64 sessionId cpu network first).map withoutNetwork =
      (runMonitorLoop f64 sessionId cpu others second).map withoutNetwork := by
  induction same generalizing cpu network others with
  | nil => rfl
  | @cons first second firsts seconds head rest induction =>
      have usages : usagesOf f64 first.output = usagesOf f64 second.output := by
        rw [usagesOf_eq, usagesOf_eq, head.usages]
      have cpus : cpuSampleOf f64 first.output = cpuSampleOf f64 second.output := by
        rw [cpuSampleOf, cpuSampleOf, usages]
      rw [runMonitorLoop_cons, runMonitorLoop_cons, List.map_cons, List.map_cons,
        snapshotOf_sameUsages head others, cpus, induction]

theorem networkOf_available {previous current : Option NetworkSample} :
    (networkOf previous current).available = true ↔ current.isSome = true := by
  cases current with
  | none => simp [networkOf]
  | some sample => simp [networkOf]

structure Reports (isElapsed : ℤ → Prop) (previous : Option Collection)
    (current : Collection) (snapshot : MonitorSnapshot Usage) : Prop where
  available : snapshot.network.available = true ↔ NetworkAvailable current.output
  interfaces : NetworkAvailable current.output →
    List.Forall₂ (Shows isElapsed previous current) (counters current.output)
      snapshot.network.interfaces
  unavailable : ¬ NetworkAvailable current.output →
    snapshot.network.interfaces = []

theorem reports_snapshotOf (sessionId : String) (cpu : Option CpuSample)
    (previous : Option Collection) (current : Collection) :
    Reports countable previous current
      (snapshotOf f64 sessionId cpu (previous.bind networkSample?) current) := by
  have available := networkSample?_isSome current
  constructor
  case available => exact networkOf_available.trans available
  case interfaces =>
      intro holds
      obtain ⟨sample, sampled⟩ :=
        Option.isSome_iff_exists.mp (available.mpr holds)
      have shown := shows_computeNetworkRates previous current
      rw [← networkSample?_eq_some sampled] at shown
      simpa [snapshotOf, sampled, networkOf] using shown
  case unavailable =>
      intro fails
      have missing : networkSample? current = none :=
        Option.not_isSome_iff_eq_none.mp fun some => fails (available.mp some)
      simp [snapshotOf, missing, networkOf]

/-- The network of every snapshot of a run follows from the lines of its own output
and of the one right before it, and nothing else does. -/
theorem network_rates (f64 : F64 Usage) (sessionId : String)
    (collections : List Collection) :
    (∀ output cpu network timestamp, ∃ parsed, parseSnapshotAt f64 sessionId
      output cpu network timestamp = .ok parsed) ∧
    (∀ before current after, collections = before ++ current :: after →
      ∃ snapshot, (runMonitorLoop f64 sessionId none none
          collections)[before.length]? = some snapshot ∧
        Reports countable before.getLast? current snapshot) ∧
    (runMonitorLoop f64 sessionId none none collections).length =
      collections.length ∧
    ∀ others, List.Forall₂ SameUsages collections others →
      (runMonitorLoop f64 sessionId none none collections).map withoutNetwork =
        (runMonitorLoop f64 sessionId none none others).map withoutNetwork := by
  refine ⟨fun output cpu network timestamp => ⟨_, parseSnapshotAt_eq _ _ _ _ _⟩,
    ?_, length_runMonitorLoop collections, fun others same =>
      runMonitorLoop_sameUsages same none⟩
  rintro before current after rfl
  refine ⟨_, runMonitorLoop_at before current after, ?_⟩
  have previous : (before.getLast?.elim none networkSample?) =
      before.getLast?.bind networkSample? := by
    cases before.getLast? <;> rfl
  rw [previous]
  exact reports_snapshotOf sessionId _ before.getLast? current

/-- Between the first and the last timestamp there is no rate, though the interval is
positive: its length does not fit the 64 bits of a timestamp. -/
theorem network_rates_longest_interval :
    ¬ ∀ (f64 : F64 Unit) (sessionId : String) (before : List Collection)
      (current : Collection) (after : List Collection),
      (∀ collection ∈ before ++ current :: after,
        -2 ^ 63 ≤ collection.timestamp ∧ collection.timestamp < 2 ^ 63) →
      ∃ snapshot, (runMonitorLoop f64 sessionId none none
          (before ++ current :: after))[before.length]? = some snapshot ∧
        Reports (fun elapsed => 0 < elapsed) before.getLast? current
          snapshot := by
  intro claimed
  let f64 : F64 Unit :=
    ⟨fun _ => none, fun _ => (), fun _ _ => true, fun _ _ => (), fun _ _ => (),
      fun _ _ => (), fun _ _ => (), id⟩
  let output := "NETWORK_STATUS=available\nNET=e,0,0".toList
  let first : Collection := ⟨output, -2 ^ 63⟩
  let last : Collection := ⟨output, 2 ^ 63 - 1⟩
  obtain ⟨snapshot, found, reports⟩ := claimed f64 "s" [first] last []
    (by decide)
  obtain rfl := Option.some.inj
    ((runMonitorLoop_at [first] last []).symm.trans found)
  have counted : counters output = [⟨"e", 0, 0⟩] := by decide
  have available : NetworkAvailable output :=
    (networkSample?_isSome first).mp (by decide)
  have stated := reports.interfaces available
  have actual := (@reports_snapshotOf _ f64 "s"
    (cpuSampleOf f64 output) (some first) last).interfaces available
  rw [counted] at stated actual
  obtain ⟨item, items, shown, -, same⟩ := List.forall₂_cons_left_iff.mp stated
  obtain ⟨other, others, really, -, again⟩ :=
    List.forall₂_cons_left_iff.mp actual
  obtain ⟨rfl, -⟩ := List.cons.inj (same.symm.trans again)
  have rate := (shown.receive 0).mpr
    ⟨first, ⟨"e", 0, 0⟩, rfl, available, by rw [counted]; rfl, le_refl 0,
      by decide, by decide⟩
  obtain ⟨earlier, old, isFirst, -, -, -, elapsed, -⟩ :=
    (really.receive 0).mp rate
  obtain rfl := Option.some.inj isFirst
  exact absurd elapsed.2 (by decide)

end TitanSSH.Monitor
