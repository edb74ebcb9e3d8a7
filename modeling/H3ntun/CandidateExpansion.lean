import H3ntun.CandidateSources
import Mathlib.Data.Set.Card
import Mathlib.Order.Interval.Finset.Nat

namespace H3ntun

/-!
# Exact expansion of candidate sources

Networks and ranges expand exactly: sampling draws distinct numbers, and
different numbers print differently.  A file is sampled before repeated lines
are dropped, so the size of a sample may depend on the draw, and a pool is not
sampled at all.
-/

/-- One source of candidates. -/
inductive CandidateSource where
  | cidr (text : String)
  | ipRange (text : String)
  | candidatesFile (file : Except Failure (List Char))
  | pool (name : String)

namespace IPv4Network

/-- Addresses of a network that may be candidates. -/
def candidates (network : IPv4Network) : Set IPv4Address :=
  { address |
    address.number / network.numAddresses =
        network.address.number / network.numAddresses ∧
      (network.prefixlen < 31 →
        address.number ≠ network.networkAddress ∧
          address.number ≠
            network.networkAddress + network.numAddresses - 1) }

end IPv4Network

namespace CandidateSource

/-- The source as an argument of the parser. -/
def arguments (source : CandidateSource) (limit : Option Int) :
    TargetArguments :=
  match source with
  | cidr text => { cidr := text, sampleLimit := limit }
  | ipRange text => { ipRange := text, sampleLimit := limit }
  | candidatesFile file => { candidatesFile := file, sampleLimit := limit }
  | pool name => { pool := name, sampleLimit := limit }

/-- The values of a source before repetitions are dropped. -/
def expand
    (random : RandomSample)
    (isIpv6Network : String → Bool)
    (source : CandidateSource)
    (limit : Option Int) :
    Except Failure (List String) :=
  match source with
  | cidr text => expandCidr random isIpv6Network text limit
  | ipRange text => expandRange random text limit
  | candidatesFile file => expandFile random file limit
  | pool name => expandPool name

/-- The addresses a source stands for. -/
def candidates : CandidateSource → Set IPv4Address
  | cidr text =>
      { address |
        ∃ network, IPv4Network.ofText? text = some network ∧
          address ∈ network.candidates }
  | ipRange text =>
      { address |
        ∃ start stop,
          IPv4Address.ofText (String.ofList (strip (rangeTexts text).1)) =
              .ok start ∧
            IPv4Address.ofText
                (String.ofList (strip (rangeTexts text).2)) =
              .ok stop ∧
            ((start.number ≤ address.number ∧
                address.number ≤ stop.number) ∨
              (stop.number ≤ address.number ∧
                address.number ≤ start.number)) }
  | candidatesFile file =>
      { address |
        ∃ contents, file = .ok contents ∧
          ∃ line ∈ rawValues contents,
            IPv4Address.ofText (String.ofList line) = .ok address }
  | pool name =>
      { address |
        ∃ entry ∈ defaultCandidatePools,
          entry.1 = name ∧ address.text ∈ entry.2 }

end CandidateSource

/-- A list of texts that expands candidates exactly. -/
structure ExactExpansion
    (candidates : Set IPv4Address)
    (limit : Option Int)
    (result : List String) : Prop where
  nodup : result.Nodup
  bounded : result.length ≤ maxCandidates
  sound : ∀ text ∈ result, ∃ address ∈ candidates, address.text = text
  full : limit = none → ∀ address ∈ candidates, address.text ∈ result
  sampled :
    ∀ count, limit = some count →
      (result.length : Int) = min count candidates.ncard

/-- Dropping repetitions leaves one text of each kind. -/
theorem length_keys_ofKeys
    (values : List String) :
    (OrderedDict.ofKeys values).keys.length = values.toFinset.card := by
  have same :
      (OrderedDict.ofKeys values).keys.toFinset = values.toFinset := by
    ext text
    simp
  rw [← List.toFinset_card_of_nodup (OrderedDict.nodup_keys _), same]

/-- What remains to be checked of texts of candidates is their number. -/
theorem exactExpansion_iff
    {candidates : Set IPv4Address}
    {limit : Option Int}
    {values : List String}
    (sound :
      ∀ text ∈ values, ∃ address ∈ candidates, address.text = text)
    (bounded : values.length ≤ maxCandidates)
    (full :
      limit = none → ∀ address ∈ candidates, address.text ∈ values) :
    ExactExpansion candidates limit (OrderedDict.ofKeys values).keys ↔
      ∀ count, limit = some count →
        (values.toFinset.card : Int) = min count candidates.ncard := by
  constructor
  · intro exact count isLimit
    rw [← length_keys_ofKeys]
    exact exact.sampled count isLimit
  · intro sized
    refine {
      nodup := OrderedDict.nodup_keys _
      bounded := ?_
      sound := ?_
      full := ?_
      sampled := ?_
    }
    · rw [length_keys_ofKeys]
      exact le_trans (List.toFinset_card_le values) bounded
    · intro text member
      rw [OrderedDict.mem_keys_ofKeys] at member
      exact sound text member
    · intro noLimit address isCandidate
      rw [OrderedDict.mem_keys_ofKeys]
      exact full noLimit address isCandidate
    · intro count isLimit
      rw [length_keys_ofKeys]
      exact sized count isLimit

/-- Candidates and their texts are equally many. -/
theorem ncard_of_texts
    {candidates : Set IPv4Address}
    {values : List String}
    (mem_iff :
      ∀ text,
        text ∈ values ↔ ∃ address ∈ candidates, address.text = text) :
    candidates.ncard = values.toFinset.card := by
  have image :
      IPv4Address.text '' candidates = (values.toFinset : Set String) := by
    ext text
    rw [List.coe_toFinset, Set.mem_ofPred_eq, mem_iff]
    rfl
  rw [← Set.ncard_image_of_injective _ IPv4Address.text_injective, image,
    Set.ncard_coe_finset]

/-- Numbers of addresses print as the texts of the addresses. -/
theorem exists_addresses
    {numbers : List Nat}
    (inRange : ∀ number ∈ numbers, number < 2 ^ 32) :
    ∃ addresses : List IPv4Address,
      addresses.map IPv4Address.number = numbers ∧
        textsOfNumbers numbers =
          .ok (addresses.map IPv4Address.text) := by
  induction numbers with
  | nil =>
      exact ⟨[], rfl, rfl⟩
  | cons number rest inductionHypothesis =>
      obtain ⟨isNumber, restInRange⟩ := List.forall_mem_cons.mp inRange
      obtain ⟨addresses, areNumbers, printed⟩ :=
        inductionHypothesis restInRange
      obtain ⟨address, isAddress, sameNumber⟩ :=
        IPv4Address.ofNumber?_of_lt isNumber
      refine ⟨address :: addresses, by simp [sameNumber, areNumbers], ?_⟩
      rw [textsOfNumbers, mapM_eq_ok_iff] at printed ⊢
      refine .cons ?_ printed
      rw [IPv4Address.ofNumber, isAddress]
      rfl

/-- What `_sample_integer_range` returns of a range that is not empty. -/
structure RangeSample
    (first count : Nat)
    (limit : Option Int)
    (numbers : List Nat) : Prop where
  nodup : numbers.Nodup
  inRange : ∀ number ∈ numbers, first ≤ number ∧ number < first + count
  bounded : numbers.length ≤ maxCandidates
  full :
    limit = none →
      ∀ number, first ≤ number → number < first + count →
        number ∈ numbers
  sampled :
    ∀ size, limit = some size → (numbers.length : Int) = min size count

section Ranges

variable {random : RandomSample} {first count : Nat} {limit : Option Int}
  {numbers : List Nat}

/-- The whole range, where it is within the limits. -/
theorem rangeSample_whole
    (fits : count ≤ maxCandidates)
    (below : ∀ size, limit = some size → (count : Int) ≤ size) :
    RangeSample first count limit
      ((List.range count).map (first + ·)) where
  nodup :=
    List.nodup_range.map fun _ _ same => Nat.add_left_cancel same
  inRange := by
    intro number member
    obtain ⟨offset, isOffset, rfl⟩ := List.mem_map.mp member
    have small := List.mem_range.mp isOffset
    omega
  bounded := by
    rw [List.length_map, List.length_range]
    exact fits
  full := by
    intro _ number atLeast less
    refine List.mem_map.mpr
      ⟨number - first, List.mem_range.mpr (by omega), ?_⟩
    omega
  sampled := by
    intro size isLimit
    rw [List.length_map, List.length_range,
      min_eq_right (below size isLimit)]

theorem rangeSample_of_ok
    (notEmpty : count ≠ 0)
    (returned : sampleIntegerRange random first count limit = .ok numbers) :
    RangeSample first count limit numbers := by
  unfold sampleIntegerRange at returned
  simp only [if_neg notEmpty] at returned
  cases limit with
  | none =>
      obtain ⟨fits, isWhole⟩ := guard_eq_ok_iff.mp returned
      obtain rfl := Except.ok.inj isWhole
      exact rangeSample_whole (by omega) (by simp)
  | some size =>
      obtain ⟨sizeInRange, returned⟩ := guard_eq_ok_iff.mp returned
      rw [not_or, not_le, not_lt] at sizeInRange
      split at returned
      · rename_i large
        obtain rfl := Except.ok.inj returned
        have isSample :=
          random.isSample count size.toNat (by omega)
        have perm :=
          List.perm_insertionSort (· ≤ ·)
            ((random.positions count size.toNat).map (first + ·))
        have length :
            ((random.positions count size.toNat).map
              (first + ·)).length = size.toNat := by
          rw [List.length_map, isSample.length]
        have atMost : size ≤ (maxCandidates : Int) := sizeInRange.2
        refine {
          nodup := ?_
          inRange := ?_
          bounded := ?_
          full := by simp
          sampled := ?_
        }
        · exact perm.nodup_iff.mpr
            (isSample.nodup.map fun _ _ same => Nat.add_left_cancel same)
        · intro number member
          obtain ⟨offset, isOffset, rfl⟩ :=
            List.mem_map.mp (perm.subset member)
          have small := isSample.lt offset isOffset
          omega
        · rw [perm.length_eq, length]
          omega
        · intro other isLimit
          obtain rfl := Option.some.inj isLimit
          rw [perm.length_eq, length]
          omega
      · rename_i small
        obtain ⟨fits, isWhole⟩ := guard_eq_ok_iff.mp returned
        obtain rfl := Except.ok.inj isWhole
        refine rangeSample_whole (by omega) ?_
        intro other isLimit
        obtain rfl := Option.some.inj isLimit
        omega

/-- Candidates that are an interval of numbers expand exactly. -/
theorem exactExpansion_of_interval
    {candidates : Set IPv4Address}
    (interval :
      ∀ address : IPv4Address,
        address ∈ candidates ↔
          first ≤ address.number ∧ address.number < first + count)
    (notEmpty : count ≠ 0)
    (fits : first + count ≤ 2 ^ 32)
    {values : List String}
    (returned :
      (sampleIntegerRange random first count limit >>= textsOfNumbers) =
        .ok values) :
    ExactExpansion candidates limit
      (OrderedDict.ofKeys values).keys := by
  obtain ⟨numbers, sampled, printed⟩ := bind_eq_ok_iff.mp returned
  have rangeSample := rangeSample_of_ok notEmpty sampled
  have numbersInRange : ∀ number ∈ numbers, number < 2 ^ 32 := by
    intro number member
    have bounds := rangeSample.inRange number member
    omega
  obtain ⟨addresses, areNumbers, isPrinted⟩ :=
    exists_addresses numbersInRange
  rw [isPrinted] at printed
  obtain rfl := Except.ok.inj printed
  have mem_iff :
      ∀ address : IPv4Address,
        address ∈ addresses ↔ address.number ∈ numbers := by
    intro address
    rw [← areNumbers,
      List.mem_map_of_injective IPv4Address.number_injective]
  have nodup : addresses.Nodup := by
    have nodupNumbers := rangeSample.nodup
    rw [← areNumbers] at nodupNumbers
    exact nodupNumbers.of_map _
  have length : addresses.length = numbers.length := by
    rw [← areNumbers, List.length_map]
  have card :
      (addresses.map IPv4Address.text).toFinset.card =
        numbers.length := by
    rw [List.toFinset_card_of_nodup
      (nodup.map IPv4Address.text_injective), List.length_map, length]
  have size : candidates.ncard = count := by
    have image :
        IPv4Address.number '' candidates =
          (Finset.Ico first (first + count) : Set Nat) := by
      ext number
      rw [Finset.coe_Ico, Set.mem_Ico]
      constructor
      · rintro ⟨address, isCandidate, rfl⟩
        exact (interval address).mp isCandidate
      · intro bounds
        obtain ⟨address, _, rfl⟩ :=
          IPv4Address.ofNumber?_of_lt (show number < 2 ^ 32 by omega)
        exact ⟨address, (interval address).mpr bounds, rfl⟩
    rw [← Set.ncard_image_of_injective _ IPv4Address.number_injective,
      image, Set.ncard_coe_finset, Nat.card_Ico]
    omega
  rw [exactExpansion_iff, card, size]
  · exact rangeSample.sampled
  · intro text member
    obtain ⟨address, isAddress, isText⟩ := List.mem_map.mp member
    exact ⟨address, (interval address).mpr
      (rangeSample.inRange _ ((mem_iff address).mp isAddress)), isText⟩
  · rw [List.length_map, length]
    exact rangeSample.bounded
  · intro noLimit address isCandidate
    obtain ⟨atLeast, less⟩ := (interval address).mp isCandidate
    exact List.mem_map_of_mem ((mem_iff address).mpr
      (rangeSample.full noLimit _ atLeast less))

end Ranges

namespace IPv4Network

variable (network : IPv4Network)

theorem numAddresses_pos :
    0 < network.numAddresses :=
  Nat.two_pow_pos _

/-- The addresses of a network end within thirty-two bits. -/
theorem networkAddress_add_le :
    network.networkAddress + network.numAddresses ≤ 2 ^ 32 := by
  have positive := network.numAddresses_pos
  have whole :
      2 ^ network.prefixlen * network.numAddresses = 2 ^ 32 := by
    have atMost := network.atMost
    rw [numAddresses, ← pow_add]
    congr 1
    omega
  have block :
      network.address.number / network.numAddresses <
        2 ^ network.prefixlen := by
    rw [Nat.div_lt_iff_lt_mul positive, whole]
    exact network.address.number_lt
  calc
    network.networkAddress + network.numAddresses =
        (network.address.number / network.numAddresses + 1) *
          network.numAddresses := by
      rw [Nat.add_mul, Nat.one_mul]
      rfl
    _ ≤ 2 ^ network.prefixlen * network.numAddresses :=
      Nat.mul_le_mul_right _ block
    _ = 2 ^ 32 := whole

/-- The network is the block of numbers that starts at its address. -/
theorem same_block_iff
    (number : Nat) :
    number / network.numAddresses =
        network.address.number / network.numAddresses ↔
      network.networkAddress ≤ number ∧
        number < network.networkAddress + network.numAddresses := by
  have positive := network.numAddresses_pos
  rw [Nat.div_eq_iff positive, networkAddress]
  omega

/-- A network with hosts apart from its two ends has four addresses. -/
theorem four_le_numAddresses
    (hasHosts : network.prefixlen < 31) :
    4 ≤ network.numAddresses := by
  have bits : 2 ≤ 32 - network.prefixlen := by omega
  have two : 0 < 2 := by decide
  exact Nat.pow_le_pow_right two bits

theorem mem_candidates_iff_of_hosts
    (hasHosts : network.prefixlen < 31)
    (address : IPv4Address) :
    address ∈ network.candidates ↔
      network.networkAddress + 1 ≤ address.number ∧
        address.number <
          network.networkAddress + 1 + (network.numAddresses - 2) := by
  have four := network.four_le_numAddresses hasHosts
  rw [candidates, Set.mem_ofPred_eq, same_block_iff]
  constructor
  · rintro ⟨block, notEnds⟩
    obtain ⟨notFirst, notLast⟩ := notEnds hasHosts
    omega
  · intro bounds
    refine ⟨by omega, fun _ => ⟨by omega, by omega⟩⟩

theorem mem_candidates_iff_of_point
    (noHosts : ¬ network.prefixlen < 31)
    (address : IPv4Address) :
    address ∈ network.candidates ↔
      network.networkAddress ≤ address.number ∧
        address.number <
          network.networkAddress + network.numAddresses := by
  rw [candidates, Set.mem_ofPred_eq, same_block_iff]
  exact ⟨And.left, fun block => ⟨block, fun hasHosts =>
    absurd hasHosts noHosts⟩⟩

end IPv4Network

/-- A network expands exactly. -/
theorem exactExpansion_cidr
    {random : RandomSample}
    {isIpv6Network : String → Bool}
    {text : String}
    {limit : Option Int}
    {values : List String}
    (returned :
      expandCidr random isIpv6Network text limit = .ok values) :
    ExactExpansion (CandidateSource.cidr text).candidates limit
      (OrderedDict.ofKeys values).keys := by
  unfold expandCidr at returned
  cases isNetwork : IPv4Network.ofText? text with
  | none =>
      simp only [isNetwork] at returned
      split at returned <;> cases returned
  | some network =>
      simp only [isNetwork] at returned
      have candidates_iff :
          ∀ address,
            address ∈ (CandidateSource.cidr text).candidates ↔
              address ∈ network.candidates := by
        intro address
        simp [CandidateSource.candidates, isNetwork]
      have fits := network.networkAddress_add_le
      have positive := network.numAddresses_pos
      split at returned
      · rename_i hasHosts
        have four := network.four_le_numAddresses hasHosts
        refine exactExpansion_of_interval ?_ (by omega) (by omega) returned
        intro address
        rw [candidates_iff,
          network.mem_candidates_iff_of_hosts hasHosts]
      · rename_i noHosts
        refine exactExpansion_of_interval ?_ (by omega) fits returned
        intro address
        rw [candidates_iff,
          network.mem_candidates_iff_of_point noHosts]

/-- A range expands exactly, whichever end comes first. -/
theorem exactExpansion_range
    {random : RandomSample}
    {text : String}
    {limit : Option Int}
    {values : List String}
    (returned : expandRange random text limit = .ok values) :
    ExactExpansion (CandidateSource.ipRange text).candidates limit
      (OrderedDict.ofKeys values).keys := by
  unfold expandRange at returned
  obtain ⟨start, isStart, returned⟩ := bind_eq_ok_iff.mp returned
  obtain ⟨stop, isStop, returned⟩ := bind_eq_ok_iff.mp returned
  have candidates_iff :
      ∀ address,
        address ∈ (CandidateSource.ipRange text).candidates ↔
          (start.number ≤ address.number ∧
              address.number ≤ stop.number) ∨
            (stop.number ≤ address.number ∧
              address.number ≤ start.number) := by
    intro address
    simp [CandidateSource.candidates, isStart, isStop]
  have startFits := start.number_lt
  have stopFits := stop.number_lt
  -- The two ends in order, which is what the code expands.
  obtain ⟨first, last, isBounds, ordered⟩ :
      ∃ first last,
        (if start.number > stop.number then
            (stop.number, start.number)
          else
            (start.number, stop.number)) = (first, last) ∧
          (start.number = first ∧ stop.number = last ∨
            stop.number = first ∧ start.number = last) ∧
          first ≤ last := by
    split
    · exact ⟨_, _, rfl, .inr ⟨rfl, rfl⟩, by omega⟩
    · exact ⟨_, _, rfl, .inl ⟨rfl, rfl⟩, by omega⟩
  rw [isBounds] at returned
  refine exactExpansion_of_interval ?_ (by omega) (by omega) returned
  intro address
  rw [candidates_iff]
  omega

/-- The texts of a file are those of its addresses. -/
theorem mem_of_readCandidates
    {contents : List Char}
    {values : List String}
    (read : readCandidates contents = .ok values)
    (text : String) :
    text ∈ values ↔
      ∃ address ∈ (CandidateSource.candidatesFile (.ok contents)).candidates,
        address.text = text := by
  obtain ⟨_, mapped⟩ := guard_eq_ok_iff.mp read
  rw [mem_of_mapM mapped]
  have shape :
      ∀ line,
        (IPv4Address.ofText (String.ofList line)).map
            IPv4Address.text = .ok text ↔
          ∃ address,
            IPv4Address.ofText (String.ofList line) = .ok address ∧
              address.text = text := by
    intro line
    cases IPv4Address.ofText (String.ofList line) <;> simp [Except.map]
  simp only [shape]
  constructor
  · rintro ⟨line, inFile, address, isAddress, isText⟩
    exact ⟨address, ⟨contents, rfl, line, inFile, isAddress⟩, isText⟩
  · rintro ⟨address, ⟨others, same, line, inFile, isAddress⟩, isText⟩
    obtain rfl := Except.ok.inj same
    exact ⟨line, inFile, address, isAddress, isText⟩

theorem length_of_readCandidates
    {contents : List Char}
    {values : List String}
    (read : readCandidates contents = .ok values) :
    values.length ≤ maxCandidates := by
  obtain ⟨fits, mapped⟩ := guard_eq_ok_iff.mp read
  rw [← (mapM_eq_ok_iff.mp mapped).length_eq]
  omega

/-- All samples of these texts have the number of values they should have. -/
def SampleSafe (values : List String) (count : Int) : Prop :=
  values.Nodup ∨
    ∀ value ∈ values,
      ((values.filter (· ≠ value)).length : Int) < count

namespace RandomSample

/-- A sample of the first positions. -/
theorem isSample_range
    {size count : Nat}
    (atMost : count ≤ size) :
    Sampling.IsSample size count (List.range count) where
  length := List.length_range
  nodup := List.nodup_range
  lt := by
    intro position member
    have small := List.mem_range.mp member
    omega

/-- The draw of the first positions. -/
def leading : RandomSample where
  positions _ count := List.range count
  isSample _ _ atMost := isSample_range atMost

/-- The draw of given positions from a population of one size. -/
def drawing
    (size count : Nat)
    (positions : List Nat)
    (isSample : Sampling.IsSample size count positions) :
    RandomSample where
  positions someSize someCount :=
    if someSize = size ∧ someCount = count then
      positions
    else
      List.range someCount
  isSample := by
    intro someSize someCount atMost
    split
    · rename_i same
      rw [same.1, same.2]
      exact isSample
    · exact isSample_range atMost

@[simp] theorem positions_drawing
    {size count : Nat}
    {positions : List Nat}
    (isSample : Sampling.IsSample size count positions) :
    (drawing size count positions isSample).positions size count =
      positions :=
  if_pos ⟨rfl, rfl⟩

end RandomSample

section Files

variable {random : RandomSample} {contents : List Char}
  {values : List String} {limit : Int}

theorem expandFile_of_refused
    (read : readCandidates contents = .ok values)
    (refused : ¬ (1 ≤ limit ∧ limit ≤ maxCandidates)) :
    expandFile random (.ok contents) (some limit) =
      .error (.valueError "sample limit must be within 1..4096") := by
  rw [expandFile, ok_bind, read, ok_bind]
  exact if_pos refused

theorem expandFile_of_small
    (read : readCandidates contents = .ok values)
    (inRange : 1 ≤ limit ∧ limit ≤ maxCandidates)
    (small : ¬ (values.length : Int) > limit) :
    expandFile random (.ok contents) (some limit) = .ok values := by
  rw [expandFile, ok_bind, read, ok_bind]
  simp only [if_neg (not_not.mpr inRange), if_neg small]
  rfl

theorem expandFile_of_large
    (read : readCandidates contents = .ok values)
    (inRange : 1 ≤ limit ∧ limit ≤ maxCandidates)
    (large : (values.length : Int) > limit) :
    expandFile random (.ok contents) (some limit) =
      .ok (Sampling.pick values
        (random.positions values.length limit.toNat)) := by
  rw [expandFile, ok_bind, read, ok_bind]
  simp only [if_neg (not_not.mpr inRange), if_pos large]
  rfl

/-- Without a limit, all addresses of a file are returned. -/
theorem exactExpansion_file_of_none
    {file : Except Failure (List Char)}
    {result : List String}
    (returned : expandFile random file none = .ok result) :
    ExactExpansion (CandidateSource.candidatesFile file).candidates none
      (OrderedDict.ofKeys result).keys := by
  obtain ⟨contents, rfl, rest⟩ := bind_eq_ok_iff.mp returned
  obtain ⟨values, read, isResult⟩ := bind_eq_ok_iff.mp rest
  obtain rfl := Except.ok.inj isResult
  rw [exactExpansion_iff]
  · intro count isLimit
    cases isLimit
  · intro text member
    exact (mem_of_readCandidates read text).mp member
  · exact length_of_readCandidates read
  · intro _ address isCandidate
    exact (mem_of_readCandidates read _).mpr
      ⟨address, isCandidate, rfl⟩

/-- With a limit, texts of a file are exact if their number is right. -/
theorem exactExpansion_file_iff
    (read : readCandidates contents = .ok values)
    {result : List String}
    (inValues : ∀ text ∈ result, text ∈ values)
    (shorter : result.length ≤ values.length) :
    ExactExpansion
        (CandidateSource.candidatesFile (.ok contents)).candidates
        (some limit) (OrderedDict.ofKeys result).keys ↔
      (result.toFinset.card : Int) =
        min limit values.toFinset.card := by
  rw [exactExpansion_iff, ncard_of_texts (mem_of_readCandidates read)]
  · constructor
    · intro sized
      exact sized limit rfl
    · intro sized count isLimit
      obtain rfl := Option.some.inj isLimit
      exact sized
  · intro text member
    exact (mem_of_readCandidates read text).mp (inValues text member)
  · exact le_trans shorter (length_of_readCandidates read)
  · intro isNone
    cases isNone

/-- A file no longer than the limit is returned as a whole. -/
theorem file_exact_of_small
    (read : readCandidates contents = .ok values)
    (inRange : 1 ≤ limit ∧ limit ≤ maxCandidates)
    (small : ¬ (values.length : Int) > limit)
    {result : List String}
    (returned :
      expandFile random (.ok contents) (some limit) = .ok result) :
    ExactExpansion
      (CandidateSource.candidatesFile (.ok contents)).candidates
      (some limit) (OrderedDict.ofKeys result).keys := by
  rw [expandFile_of_small read inRange small] at returned
  obtain rfl := Except.ok.inj returned
  rw [exactExpansion_file_iff read (fun _ member => member) (le_refl _)]
  have atMost := List.toFinset_card_le values
  omega

/-- The samples of a longer file, counted. -/
theorem file_exact_iff_of_large
    (read : readCandidates contents = .ok values)
    (inRange : 1 ≤ limit ∧ limit ≤ maxCandidates)
    (large : (values.length : Int) > limit) :
    (∀ random result,
        expandFile random (.ok contents) (some limit) = .ok result →
        ExactExpansion
          (CandidateSource.candidatesFile (.ok contents)).candidates
          (some limit) (OrderedDict.ofKeys result).keys) ↔
      ∀ positions,
        Sampling.IsSample values.length limit.toNat positions →
        (Sampling.pick values positions).toFinset.card =
          min limit.toNat values.toFinset.card := by
  have exact_iff :
      ∀ positions,
        Sampling.IsSample values.length limit.toNat positions →
        (ExactExpansion
            (CandidateSource.candidatesFile (.ok contents)).candidates
            (some limit)
            (OrderedDict.ofKeys
              (Sampling.pick values positions)).keys ↔
          (Sampling.pick values positions).toFinset.card =
            min limit.toNat values.toFinset.card) := by
    intro positions isSample
    have length := Sampling.length_pick isSample.lt
    rw [isSample.length] at length
    rw [exactExpansion_file_iff read
      (fun _ member => Sampling.mem_of_mem_pick member) (by omega)]
    omega
  constructor
  · intro all positions isSample
    have drawn :
        expandFile (RandomSample.drawing _ _ positions isSample)
            (.ok contents) (some limit) = _ :=
      expandFile_of_large read inRange large
    rw [RandomSample.positions_drawing] at drawn
    exact (exact_iff positions isSample).mp (all _ _ drawn)
  · intro all random result returned
    have isSample :=
      random.isSample values.length limit.toNat (by omega)
    rw [expandFile_of_large read inRange large] at returned
    obtain rfl := Except.ok.inj returned
    exact (exact_iff _ isSample).mpr (all _ isSample)

/-- A single drawn line is as many addresses as there should be. -/
theorem card_pick_one
    {positions : List Nat}
    (isSample : Sampling.IsSample values.length 1 positions) :
    (Sampling.pick values positions).toFinset.card =
      min 1 values.toFinset.card := by
  have length := Sampling.length_pick isSample.lt
  rw [isSample.length] at length
  obtain ⟨text, isPick⟩ := List.length_eq_one_iff.mp length
  have member : text ∈ values := by
    apply Sampling.mem_of_mem_pick
    rw [isPick]
    exact List.mem_singleton_self text
  have positive :=
    Finset.card_pos.mpr ⟨text, List.mem_toFinset.mpr member⟩
  rw [isPick, min_eq_left positive]
  rfl

/-- Where a file has at most as many lines as the limit, it is safe. -/
theorem sampleSafe_of_small
    (small : ¬ (values.length : Int) > limit) :
    SampleSafe values limit := by
  right
  intro value member
  have fewer : (values.filter (· ≠ value)).length < values.length := by
    rw [List.length_filter_lt_length_iff_exists]
    exact ⟨value, member, by simp⟩
  omega

/-- Sampling a file is exact for every draw, exactly if it is safe. -/
theorem file_exact_iff
    (file : Except Failure (List Char))
    (limit : Int) :
    (∀ random result,
        expandFile random file (some limit) = .ok result →
        ExactExpansion (CandidateSource.candidatesFile file).candidates
          (some limit) (OrderedDict.ofKeys result).keys) ↔
      ∀ contents values,
        file = .ok contents →
        readCandidates contents = .ok values →
        1 < limit → limit ≤ maxCandidates →
        SampleSafe values limit := by
  constructor
  · rintro all contents values rfl read more atMost
    have inRange : 1 ≤ limit ∧ limit ≤ maxCandidates :=
      ⟨by omega, atMost⟩
    by_cases large : (values.length : Int) > limit
    · have counted :=
        (file_exact_iff_of_large read inRange large).mp all
      rw [Sampling.card_pick_iff (by omega) (by omega)] at counted
      refine counted.imp id ?_
      intro few value member
      have fewer := few value member
      omega
    · exact sampleSafe_of_small large
  · intro safe
    cases file with
    | error failure =>
        intro random result returned
        cases returned
    | ok contents =>
        cases read : readCandidates contents with
        | error failure =>
            intro random result returned
            rw [expandFile, ok_bind, read] at returned
            cases returned
        | ok values =>
            by_cases inRange : 1 ≤ limit ∧ limit ≤ maxCandidates
            · by_cases large : (values.length : Int) > limit
              · rw [file_exact_iff_of_large read inRange large]
                by_cases single : limit = 1
                · subst limit
                  intro positions isSample
                  exact card_pick_one isSample
                · rw [Sampling.card_pick_iff (by omega) (by omega)]
                  refine (safe contents values rfl read (by omega)
                    inRange.2).imp id ?_
                  intro few value member
                  have fewer := few value member
                  omega
              · intro random result returned
                exact file_exact_of_small read inRange large returned
            · intro random result returned
              rw [expandFile_of_refused read inRange] at returned
              cases returned

end Files

/-- The only pool, by its addresses. -/
theorem expandPool_eq_ok_iff
    {name : String}
    {values : List String} :
    expandPool name = .ok values ↔
      name = "loopback" ∧ values = ["127.0.0.1", "127.0.0.2"] := by
  by_cases isLoopback : name = "loopback"
  · subst name
    simp [expandPool, defaultCandidatePools, eq_comm]
  · have other : ¬ "loopback" = name := fun same => isLoopback same.symm
    simp [expandPool, defaultCandidatePools, isLoopback, other]

theorem mem_loopback_iff
    (text : String) :
    text ∈ ["127.0.0.1", "127.0.0.2"] ↔
      ∃ address ∈ (CandidateSource.pool "loopback").candidates,
        address.text = text := by
  constructor
  · intro member
    have isText :
        ∃ address : IPv4Address, address.text = text := by
      rcases List.mem_pair.mp member with rfl | rfl
      · exact ⟨⟨127, 0, 0, 1⟩, by decide⟩
      · exact ⟨⟨127, 0, 0, 2⟩, by decide⟩
    obtain ⟨address, rfl⟩ := isText
    exact ⟨address, ⟨_, List.mem_singleton_self _, rfl, member⟩, rfl⟩
  · rintro ⟨address, ⟨entry, inPools, _, member⟩, rfl⟩
    rw [defaultCandidatePools, List.mem_singleton] at inPools
    subst inPools
    exact member

/-- A pool is returned as a whole, whatever the limit. -/
theorem exactExpansion_pool_iff
    {name : String}
    {values : List String}
    {limit : Option Int}
    (returned : expandPool name = .ok values) :
    ExactExpansion (CandidateSource.pool name).candidates limit
        (OrderedDict.ofKeys values).keys ↔
      ∀ count, limit = some count → 2 ≤ count := by
  obtain ⟨rfl, rfl⟩ := expandPool_eq_ok_iff.mp returned
  have two :
      (["127.0.0.1", "127.0.0.2"] : List String).toFinset.card = 2 := by
    decide
  rw [exactExpansion_iff, ncard_of_texts mem_loopback_iff, two]
  · constructor
    · intro sized count isLimit
      have size := sized count isLimit
      omega
    · intro large count isLimit
      have atLeast := large count isLimit
      omega
  · intro text member
    exact (mem_loopback_iff text).mp member
  · decide
  · intro _ address isCandidate
    exact (mem_loopback_iff _).mpr ⟨address, isCandidate, rfl⟩

/--
When a source expands exactly under a limit: a file whose samples all have
the number of addresses they should have, or a pool within the limit.
-/
def CandidateSource.IsExactUnder
    (source : CandidateSource)
    (limit : Option Int) : Prop :=
  ∀ count, limit = some count →
    match source with
    | .cidr _ => True
    | .ipRange _ => True
    | .candidatesFile file =>
        ∀ contents values,
          file = .ok contents →
          readCandidates contents = .ok values →
          1 < count → count ≤ maxCandidates →
          SampleSafe values count
    | .pool name =>
        ∀ values, expandPool name = .ok values → 2 ≤ count

/-- The parser expands its source and drops repetitions. -/
theorem parseIpTargets_eq
    (random : RandomSample)
    (isIpv6Network : String → Bool)
    (source : CandidateSource)
    (limit : Option Int) :
    parseIpTargets random isIpv6Network (source.arguments limit) =
      source.expand random isIpv6Network limit >>= fun values =>
        .ok (OrderedDict.ofKeys values).keys := by
  cases source <;> rfl

/--
Networks and ranges expand exactly, and so does every source without a limit;
a file does under a limit if its samples are safe, a pool if the limit is not
below its size.
-/
theorem parseIpTargets_exact_iff
    (isIpv6Network : String → Bool)
    (source : CandidateSource)
    (limit : Option Int) :
    (∀ random result,
        parseIpTargets random isIpv6Network (source.arguments limit) =
          .ok result →
        ExactExpansion source.candidates limit result) ↔
      source.IsExactUnder limit := by
  have expands :
      (∀ random result,
          parseIpTargets random isIpv6Network (source.arguments limit) =
            .ok result →
          ExactExpansion source.candidates limit result) ↔
        ∀ random values,
          source.expand random isIpv6Network limit = .ok values →
          ExactExpansion source.candidates limit
            (OrderedDict.ofKeys values).keys := by
    constructor
    · intro exact random values returned
      apply exact random
      rw [parseIpTargets_eq, returned]
      rfl
    · intro exact random result returned
      rw [parseIpTargets_eq] at returned
      obtain ⟨values, expanded, isResult⟩ := bind_eq_ok_iff.mp returned
      obtain rfl := Except.ok.inj isResult
      exact exact random values expanded
  rw [expands]
  cases source with
  | cidr text =>
      exact ⟨fun _ _ _ => trivial, fun _ _ _ returned =>
        exactExpansion_cidr returned⟩
  | ipRange text =>
      exact ⟨fun _ _ _ => trivial, fun _ _ _ returned =>
        exactExpansion_range returned⟩
  | candidatesFile file =>
      cases limit with
      | none =>
          constructor
          · intro _ count isLimit
            cases isLimit
          · intro _ random values returned
            have expanded : expandFile random file none = .ok values :=
              returned
            exact exactExpansion_file_of_none expanded
      | some count =>
          have exact_iff := file_exact_iff file count
          constructor
          · intro exact other isLimit
            obtain rfl := Option.some.inj isLimit
            exact exact_iff.mp exact
          · intro safe
            exact exact_iff.mpr (safe count rfl)
  | pool name =>
      constructor
      · intro exact count isLimit values returned
        exact (exactExpansion_pool_iff returned).mp
          (exact RandomSample.leading values returned) count isLimit
      · intro large random values returned
        exact (exactExpansion_pool_iff returned).mpr
          fun count isLimit => large count isLimit values returned

/-- Four lines, the first two alike. -/
def repeatedLines : List Char :=
  "10.0.0.1\n10.0.0.1\n10.0.0.2\n10.0.0.3\n".toList

/--
A sample of two lines may hold one address twice, and a pool of two addresses
ignores a limit of one.
-/
theorem sample_misses_limit :
    parseIpTargets RandomSample.leading (fun _ => false)
        ((CandidateSource.candidatesFile (.ok repeatedLines)).arguments
          (some 2)) =
      .ok ["10.0.0.1"] ∧
    ¬ ExactExpansion
        (CandidateSource.candidatesFile (.ok repeatedLines)).candidates
        (some 2) ["10.0.0.1"] ∧
    parseIpTargets RandomSample.leading (fun _ => false)
        ((CandidateSource.pool "loopback").arguments (some 1)) =
      .ok ["127.0.0.1", "127.0.0.2"] ∧
    ¬ ExactExpansion (CandidateSource.pool "loopback").candidates
        (some 1) ["127.0.0.1", "127.0.0.2"] := by
  have read :
      readCandidates repeatedLines =
        .ok ["10.0.0.1", "10.0.0.1", "10.0.0.2", "10.0.0.3"] := by
    decide +kernel
  refine ⟨by decide +kernel, ?_, by decide +kernel, ?_⟩
  · intro exact
    have size := exact.sampled 2 rfl
    rw [ncard_of_texts (mem_of_readCandidates read)] at size
    revert size
    decide +kernel
  · intro exact
    have size := exact.sampled 1 rfl
    rw [ncard_of_texts mem_loopback_iff] at size
    revert size
    decide +kernel

end H3ntun
