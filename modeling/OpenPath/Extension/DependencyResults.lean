/-
# The results of runtime dependencies

The extension asks the native host about batches of runtime dependencies, and the host
answers with one item for each entry, though not always in order: what it cannot read
comes first. Three parts of the extension take such an answer apart. The prober and the
confirmation of a remembered dependency look for the item that names the dependency,
and a batch of new dependencies looks for the item of the very request, then for the
one at its place, and at last takes the answer as a whole. A host that knows no batches
is asked about each request by itself, and what it answers is taken for the request.

What they do with a request is an effect, together with what it is based on. An effect
is attributed when it is based on an item that names the anchor and the dependency of
the request.
-/

import OpenPath.Linux.DependencyPolicy

namespace OpenPath.Extension.DependencyResults

open JavaScript (toLowerCase includes)

/-- A response of the host, or an item of one. -/
abbrev NativeResponse := JsonObject

structure LocalRuntimeDependencyInput where
  anchorHost : Text
  dependencyHost : Text
  requestType : Text
  deriving DecidableEq

/-! ## What a response says -/

inductive RuntimeDependencyReadiness
  | ready
  | pending
  | terminal
  deriving DecidableEq, Repr

def resolveRuntimeDependencyReadiness (response : NativeResponse) : RuntimeDependencyReadiness :=
  let state := response.lookup "runtimeDependencyState".toList
  if Json.isText "ready".toList state then .ready
  else if Json.isText "pending".toList state || Json.isText "queued".toList state then .pending
  else if Json.isText "denied".toList state || Json.isText "error".toList state then .terminal
  else if Json.isTrue (response.lookup "queued".toList) then .pending
  else if Json.isFalse (response.lookup "success".toList) then .terminal
  else .pending

def isReadyRuntimeDependencyCheckResponse (response : NativeResponse) : Bool :=
  Json.isTrue (response.lookup "ready".toList) ||
    Json.isText "ready".toList (response.lookup "runtimeDependencyState".toList)

/-- A response with a list of results. -/
structure BatchResponse where
  itself : NativeResponse
  results : Option (List NativeResponse)

def BatchResponse.items (response : BatchResponse) : List NativeResponse :=
  response.results.getD []

/-- A value that counts as true. A number is zero when its digits before an exponent are. -/
def isTruthy : Option Json → Bool
  | none | some .null => false
  | some (.bool value) => value
  | some (.int value) => value ≠ 0
  | some (.real shown) =>
      (shown.takeWhile fun c => c ≠ 'e' && c ≠ 'E').any fun c => '1' ≤ c && c ≤ '9'
  | some (.string value) => !value.isEmpty
  | some (.array _) | some (.object _) => true

def isBatchUnsupported (response : BatchResponse) : Bool :=
  let error := toLowerCase (Json.text (response.itself.lookup "error".toList))
  !isTruthy (response.itself.lookup "success".toList) &&
    (includes error "unknown action".toList || includes error "unsupported".toList) &&
    response.results.isNone

/-! ## Finding the item of a request -/

/-- A string that is the host, up to case. -/
def namesHost (value : Option Json) (host : Text) : Bool :=
  match value with
  | some (.string name) => toLowerCase name == toLowerCase host
  | _ => false

def namesAnchor (input : LocalRuntimeDependencyInput) (item : NativeResponse) : Bool :=
  namesHost (item.lookup "anchorHost".toList) input.anchorHost

def namesDependency (input : LocalRuntimeDependencyInput) (item : NativeResponse) : Bool :=
  namesHost (item.lookup "dependencyHost".toList) input.dependencyHost

/-- The item carries the three fields of the request as they are. -/
def isExact (input : LocalRuntimeDependencyInput) (item : NativeResponse) : Bool :=
  Json.isText input.anchorHost (item.lookup "anchorHost".toList) &&
    Json.isText input.dependencyHost (item.lookup "dependencyHost".toList) &&
    Json.isText input.requestType (item.lookup "requestType".toList)

/-- What an effect is based on: an item of the results, or something else. -/
inductive Basis
  | item (response : NativeResponse)
  | other (response : NativeResponse)

def Basis.response : Basis → NativeResponse
  | .item response => response
  | .other response => response

/-- `findResultForInput` of the prober -/
def findResultForInput (results : List NativeResponse) (input : LocalRuntimeDependencyInput) :
    Option NativeResponse :=
  results.find? (namesDependency input)

def findBatchResult (response : BatchResponse) (input : LocalRuntimeDependencyInput)
    (index : Nat) : Basis :=
  match (response.items.find? (isExact input)).or response.items[index]? with
  | some item => .item item
  | none => .other response.itself

/-- `{ success: false, runtimeDependencyState: 'error' }` -/
def failedCheck : NativeResponse :=
  [("success".toList, .bool false), ("runtimeDependencyState".toList, .string "error".toList)]

def checkRuntimeDependency (results : List NativeResponse) (input : LocalRuntimeDependencyInput) :
    Basis :=
  match (results.find? (namesDependency input)).or results.head? with
  | some item => .item item
  | none => .other failedCheck

/-! ## Effects -/

inductive Effect
  /-- `cacheReadyRuntimeDependency` -/
  | remembered (input : LocalRuntimeDependencyInput) (basis : Basis)
  /-- `queuedRuntimeDependencyDedupeCache.set` -/
  | deduped (input : LocalRuntimeDependencyInput) (basis : Basis)
  /-- The promise of the request resolves with the response. -/
  | settled (input : LocalRuntimeDependencyInput) (basis : Basis)
  /-- The promise of the request resolves as ready: a remembered dependency still is. -/
  | confirmed (input : LocalRuntimeDependencyInput) (basis : Basis)
  /-- `runtimeDependencyCache.delete` -/
  | forgotten (input : LocalRuntimeDependencyInput)
  /-- The prober goes on to ask for the request. -/
  | registered (input : LocalRuntimeDependencyInput)
  /-- The listeners are told. -/
  | applied (input : LocalRuntimeDependencyInput)
  /-- The prober gives up: the request is settled as an error that no host sent. -/
  | aged (input : LocalRuntimeDependencyInput)
  /-- The promise of the request is rejected. -/
  | rejected (input : LocalRuntimeDependencyInput)

def cacheRuntimeDependencySuccess (input : LocalRuntimeDependencyInput) (basis : Basis) :
    List Effect :=
  match resolveRuntimeDependencyReadiness basis.response with
  | .ready => [.remembered input basis]
  | .pending => [.deduped input basis]
  | .terminal => []

/-- What `registerBatchWithProber` does with the final response. -/
def settleFinal (input : LocalRuntimeDependencyInput) (basis : Basis) : List Effect :=
  if resolveRuntimeDependencyReadiness basis.response = .ready then
    [.remembered input basis, .settled input basis, .applied input]
  else [.settled input basis]

/-- One request of a batch whose answer came over the port. -/
def settleEnqueued (response : BatchResponse) (input : LocalRuntimeDependencyInput) (index : Nat) :
    List Effect :=
  let basis := findBatchResult response input index
  if resolveRuntimeDependencyReadiness basis.response ≠ .pending then
    cacheRuntimeDependencySuccess input basis ++ [.settled input basis]
  else cacheRuntimeDependencySuccess input basis ++ [.registered input]

/-- One request of a batch that a host answered that was started for it. -/
def settleOneShot (response : BatchResponse) (input : LocalRuntimeDependencyInput) (index : Nat) :
    List Effect :=
  let basis := findBatchResult response input index
  cacheRuntimeDependencySuccess input basis ++ [.settled input basis]

/-- `sendSingleLocalRuntimeDependency`, and what becomes of its request; without an answer
the call has thrown. -/
def settleSingle (answer : Option NativeResponse) (input : LocalRuntimeDependencyInput) :
    List Effect :=
  match answer with
  | some response =>
      cacheRuntimeDependencySuccess input (.item response) ++ [.settled input (.item response)]
  | none => [.rejected input]

inductive PersistentFlowDecision
  | ready
  | connecting
  | legacy

/-- What the calls of one flush are answered with; a call without an answer has thrown. -/
structure FlushAnswers where
  port : Option BatchResponse
  /-- The port is still ready or connecting when the call over it has thrown. -/
  keepsPort : Bool
  oneShot : Option BatchResponse
  /-- The answer for the request at an index, when it is sent by itself. -/
  single : Nat → Option NativeResponse

/-- The results that a flush can take a request's from. -/
def FlushAnswers.results (answers : FlushAnswers) : Set NativeResponse :=
  {item | (∃ response ∈ answers.port, item ∈ response.items) ∨
    (∃ response ∈ answers.oneShot, item ∈ response.items) ∨
      ∃ index, answers.single index = some item}

/-- The part of a flush behind the port: a host is started for the batch. -/
def flushOneShot (answers : FlushAnswers) (batch : List LocalRuntimeDependencyInput) :
    List Effect :=
  match answers.oneShot with
  | none => batch.map .rejected
  | some response =>
      if isBatchUnsupported response then
        batch.zipIdx.flatMap fun request => settleSingle (answers.single request.2) request.1
      else batch.zipIdx.flatMap fun request => settleOneShot response request.1 request.2

/-- `flushRuntimeDependencyBatch`, with the requests that it takes. -/
def flushRuntimeDependencyBatch (decision : PersistentFlowDecision) (answers : FlushAnswers)
    (batch : List LocalRuntimeDependencyInput) : List Effect :=
  match decision with
  | .connecting => batch.map .registered
  | .legacy => flushOneShot answers batch
  | .ready =>
      match answers.port with
      | none => if answers.keepsPort then batch.map .registered else flushOneShot answers batch
      | some response =>
          if isBatchUnsupported response then flushOneShot answers batch
          else batch.zipIdx.flatMap fun request => settleEnqueued response request.1 request.2

/-- `confirmCachedRuntimeDependency` -/
def confirmCachedRuntimeDependency (results : List NativeResponse)
    (input : LocalRuntimeDependencyInput) : List Effect :=
  let basis := checkRuntimeDependency results input
  if isReadyRuntimeDependencyCheckResponse basis.response then
    [.remembered input basis, .confirmed input basis]
  else [.forgotten input]

/-- An entry of the prober. -/
structure ProberEntry where
  input : LocalRuntimeDependencyInput
  registeredAt : Int
  deriving DecidableEq

structure ProberOptions where
  maxBatchSize : Nat
  maxEntryAgeMs : Int

/-- The entries of a batch that are settled, with their items. -/
def settledEntries (batch : List ProberEntry) (results : List NativeResponse) :
    List (ProberEntry × NativeResponse) :=
  batch.filterMap fun entry =>
    match findResultForInput results entry.input with
    | none => none
    | some result =>
        if resolveRuntimeDependencyReadiness result = .pending then none else some (entry, result)

/-- `poll`: the entries of a batch are settled by the results, and then all those that
are too old. -/
def poll (options : ProberOptions) (now : Int) (entries : List ProberEntry)
    (results : List NativeResponse) : List Effect :=
  let settled := settledEntries (entries.take options.maxBatchSize) results
  let left := entries.filter fun entry => entry ∉ settled.map Prod.fst
  let old := left.filter fun entry => entry.registeredAt ≤ now - options.maxEntryAgeMs
  settled.flatMap (fun entry => settleFinal entry.1.input (.item entry.2)) ++
    old.map fun entry => .aged entry.input

/-! ## Attribution -/

/-- The item is about the anchor and the dependency of the request. -/
def IsFor (input : LocalRuntimeDependencyInput) (item : NativeResponse) : Prop :=
  namesAnchor input item = true ∧ namesDependency input item = true

/-- A response that makes a request ready or denies it. Which of the final responses
are denials is left open. -/
def Decides (denial : NativeResponse → Bool) (response : NativeResponse) : Bool :=
  match resolveRuntimeDependencyReadiness response with
  | .ready => true
  | .pending => false
  | .terminal => denial response

/-- The basis is a result for the request. -/
def BasedOn (results : Set NativeResponse) (input : LocalRuntimeDependencyInput) (basis : Basis) :
    Prop :=
  ∃ item ∈ results, basis = .item item ∧ IsFor input item

/-- A request is remembered or confirmed as ready, or settled as ready or denied, only
on a result for it. -/
def Attributed (denial : NativeResponse → Bool) (results : Set NativeResponse) : Effect → Prop
  | .remembered input basis => BasedOn results input basis
  | .confirmed input basis => BasedOn results input basis
  | .settled input basis => Decides denial basis.response = true → BasedOn results input basis
  | _ => True

section Attribution

variable {denial : NativeResponse → Bool} {results : Set NativeResponse}
  {input : LocalRuntimeDependencyInput} {basis : Basis}

/-- What is remembered at once and what is settled are attributed alike. -/
theorem attributed_cacheRuntimeDependencySuccess
    (hbased : Decides denial basis.response = true → BasedOn results input basis) :
    ∀ effect ∈ cacheRuntimeDependencySuccess input basis, Attributed denial results effect := by
  intro effect heffect
  rw [cacheRuntimeDependencySuccess] at heffect
  split at heffect
  · rename_i hready
    rw [List.mem_singleton.mp heffect]
    exact hbased (by rw [Decides, hready])
  · rw [List.mem_singleton.mp heffect]
    trivial
  · cases heffect

theorem attributed_settleFinal
    (hbased : Decides denial basis.response = true → BasedOn results input basis) :
    ∀ effect ∈ settleFinal input basis, Attributed denial results effect := by
  intro effect heffect
  rw [settleFinal] at heffect
  split at heffect
  · rename_i hready
    have hdecides : Decides denial basis.response = true := by rw [Decides, hready]
    simp only [List.mem_cons, List.not_mem_nil, or_false] at heffect
    rcases heffect with rfl | rfl | rfl
    · exact hbased hdecides
    · exact hbased
    · trivial
  · rw [List.mem_singleton.mp heffect]
    exact hbased

theorem settled_mem_settleFinal (input : LocalRuntimeDependencyInput) (basis : Basis) :
    Effect.settled input basis ∈ settleFinal input basis := by
  rw [settleFinal]
  split <;> simp

theorem not_pending_of_decides {response : NativeResponse}
    (hdecides : Decides denial response = true) :
    resolveRuntimeDependencyReadiness response ≠ .pending := by
  intro hpending
  rw [Decides, hpending] at hdecides
  cases hdecides

/-- A basis that is a result is right for a request if it is about it. -/
theorem basedOn_item_iff {item : NativeResponse} (hitem : item ∈ results) :
    BasedOn results input (.item item) ↔ IsFor input item := by
  constructor
  · rintro ⟨_, -, ⟨⟩, hfor⟩
    exact hfor
  · exact fun hfor => ⟨item, hitem, rfl, hfor⟩

/-! ### A batch of new dependencies -/

/-- The item at the place of a request, or the whole answer, is right for it. -/
def PlaceFits (denial : NativeResponse → Bool) (response : BatchResponse)
    (input : LocalRuntimeDependencyInput) (index : Nat) : Prop :=
  match response.items[index]? with
  | some item => Decides denial item = true → IsFor input item
  | none => Decides denial response.itself = false

theorem isFor_of_isExact {item : NativeResponse} (hexact : isExact input item = true) :
    IsFor input item := by
  have hname : ∀ (host : Text) (value : Option Json), Json.isText host value = true →
      namesHost value host = true := by
    intro host value hvalue
    cases value with
    | none => cases hvalue
    | some json =>
        cases json with
        | string name => simpa [namesHost] using congrArg toLowerCase (beq_iff_eq.mp hvalue)
        | _ => cases hvalue
  rw [isExact, Bool.and_eq_true, Bool.and_eq_true] at hexact
  exact ⟨hname _ _ hexact.1.1, hname _ _ hexact.1.2⟩

/-- The basis that a batch finds for a request is right for it if and only if the item
with its three fields is there, or its place fits. -/
theorem basedOn_findBatchResult {response : BatchResponse}
    (hitems : ∀ item ∈ response.items, item ∈ results) (input : LocalRuntimeDependencyInput)
    (index : Nat) :
    (Decides denial (findBatchResult response input index).response = true →
        BasedOn results input (findBatchResult response input index)) ↔
      (response.items.find? (isExact input) = none → PlaceFits denial response input index) := by
  rw [findBatchResult, PlaceFits]
  cases hexact : response.items.find? (isExact input) with
  | some item =>
      have hfor := isFor_of_isExact (List.find?_some hexact)
      have hbased : BasedOn results input (.item item) :=
        ⟨item, hitems item (List.mem_of_find?_eq_some hexact), rfl, hfor⟩
      simp [hbased]
  | none =>
      cases hplace : response.items[index]? with
      | some item =>
          have hbased : BasedOn results input (.item item) ↔ IsFor input item :=
            basedOn_item_iff (hitems item (List.mem_of_getElem? hplace))
          simp [hbased, Basis.response]
      | none =>
          have hnot : ¬ BasedOn results input (.other response.itself) := by
            rintro ⟨_, -, ⟨⟩, -⟩
          simp [hnot, Basis.response]

/-- What is remembered at once and then settled is attributed if and only if the basis is
right. -/
theorem attributed_settle_iff :
    (∀ effect ∈ cacheRuntimeDependencySuccess input basis ++ [.settled input basis],
        Attributed denial results effect) ↔
      (Decides denial basis.response = true → BasedOn results input basis) := by
  constructor
  · intro hall hdecides
    exact hall (.settled input basis) (List.mem_append_right _ List.mem_cons_self) hdecides
  · intro hbased effect heffect
    rcases List.mem_append.mp heffect with hcached | hsettled
    · exact attributed_cacheRuntimeDependencySuccess hbased effect hcached
    · rw [List.mem_singleton.mp hsettled]
      exact hbased

theorem attributed_settleEnqueued_iff {response : BatchResponse}
    (hitems : ∀ item ∈ response.items, item ∈ results) (input : LocalRuntimeDependencyInput)
    (index : Nat) :
    (∀ effect ∈ settleEnqueued response input index, Attributed denial results effect) ↔
      (response.items.find? (isExact input) = none → PlaceFits denial response input index) := by
  rw [← basedOn_findBatchResult hitems, settleEnqueued]
  split
  · exact attributed_settle_iff
  · next hpending =>
    rw [not_not] at hpending
    refine iff_of_true (fun effect heffect => ?_) fun hdecides =>
      absurd hpending (not_pending_of_decides hdecides)
    rw [cacheRuntimeDependencySuccess, hpending] at heffect
    simp only [List.cons_append, List.nil_append, List.mem_cons, List.not_mem_nil,
      or_false] at heffect
    rcases heffect with rfl | rfl
    · trivial
    · trivial

theorem attributed_settleOneShot_iff {response : BatchResponse}
    (hitems : ∀ item ∈ response.items, item ∈ results) (input : LocalRuntimeDependencyInput)
    (index : Nat) :
    (∀ effect ∈ settleOneShot response input index, Attributed denial results effect) ↔
      (response.items.find? (isExact input) = none → PlaceFits denial response input index) := by
  rw [← basedOn_findBatchResult hitems]
  exact attributed_settle_iff

theorem attributed_settleSingle_iff {answer : Option NativeResponse}
    (hanswer : ∀ response ∈ answer, response ∈ results) (input : LocalRuntimeDependencyInput) :
    (∀ effect ∈ settleSingle answer input, Attributed denial results effect) ↔
      ∀ response ∈ answer, Decides denial response = true → IsFor input response := by
  cases answer with
  | none =>
      refine iff_of_true (fun effect heffect => ?_) fun response hresponse => by cases hresponse
      rw [List.mem_singleton.mp heffect]
      trivial
  | some response =>
      rw [settleSingle, attributed_settle_iff, basedOn_item_iff (hanswer response rfl)]
      simp [Basis.response]

/-- What holds of the effects of every request of a batch. -/
theorem forall_mem_flatMap_zipIdx {batch : List LocalRuntimeDependencyInput}
    {effects : LocalRuntimeDependencyInput → Nat → List Effect} {P : Effect → Prop}
    {Q : LocalRuntimeDependencyInput → Nat → Prop}
    (heach : ∀ input index, (∀ effect ∈ effects input index, P effect) ↔ Q input index) :
    (∀ effect ∈ batch.zipIdx.flatMap fun request => effects request.1 request.2, P effect) ↔
      ∀ index input, batch[index]? = some input → Q input index := by
  constructor
  · intro hall index input hget
    rw [← heach]
    intro effect heffect
    refine hall effect (List.mem_flatMap.mpr ⟨(input, index), ?_, heffect⟩)
    exact List.mem_zipIdx_iff_getElem?.mpr hget
  · intro hall effect heffect
    obtain ⟨⟨input, index⟩, hrequest, hmem⟩ := List.mem_flatMap.mp heffect
    have hget := List.mem_zipIdx_iff_getElem?.mp hrequest
    exact (heach input index).mpr (hall index input hget) effect hmem

/-- Every request of a batch has an item with its three fields, or its place fits. -/
def BatchFits (denial : NativeResponse → Bool) (batch : List LocalRuntimeDependencyInput)
    (response : BatchResponse) : Prop :=
  ∀ index input, batch[index]? = some input →
    response.items.find? (isExact input) = none → PlaceFits denial response input index

/-- The host that is started for a batch is right for each request, in one answer or, when
it knows no batches, in its answers to single requests. -/
def OneShotFits (denial : NativeResponse → Bool) (answers : FlushAnswers)
    (batch : List LocalRuntimeDependencyInput) : Prop :=
  ∀ response ∈ answers.oneShot,
    if isBatchUnsupported response then
      ∀ index input, batch[index]? = some input →
        ∀ answer ∈ answers.single index, Decides denial answer = true → IsFor input answer
    else BatchFits denial batch response

/-- The answers that a flush uses are right. -/
def FlushFits (denial : NativeResponse → Bool) (decision : PersistentFlowDecision)
    (answers : FlushAnswers) (batch : List LocalRuntimeDependencyInput) : Prop :=
  match decision with
  | .connecting => True
  | .legacy => OneShotFits denial answers batch
  | .ready =>
      match answers.port with
      | none => answers.keepsPort = true ∨ OneShotFits denial answers batch
      | some response =>
          if isBatchUnsupported response then OneShotFits denial answers batch
          else BatchFits denial batch response

theorem attributed_map (effect : LocalRuntimeDependencyInput → Effect)
    (heffect : ∀ input, Attributed denial results (effect input))
    (batch : List LocalRuntimeDependencyInput) :
    ∀ other ∈ batch.map effect, Attributed denial results other :=
  List.forall_mem_map.mpr fun input _ => heffect input

theorem attributed_flushOneShot_iff (answers : FlushAnswers)
    (batch : List LocalRuntimeDependencyInput) :
    (∀ effect ∈ flushOneShot answers batch, Attributed denial answers.results effect) ↔
      OneShotFits denial answers batch := by
  rw [flushOneShot, OneShotFits]
  cases hanswer : answers.oneShot with
  | none =>
      exact iff_of_true (attributed_map .rejected (fun _ => trivial) batch)
        fun response hresponse => by cases hresponse
  | some response =>
      have hitems : ∀ item ∈ response.items, item ∈ answers.results :=
        fun item hitem => .inr (.inl ⟨response, hanswer, hitem⟩)
      have hsingle (index : Nat) : ∀ item ∈ answers.single index, item ∈ answers.results :=
        fun item hitem => .inr (.inr ⟨index, hitem⟩)
      simp only [Option.mem_some_iff, forall_eq']
      split
      · exact forall_mem_flatMap_zipIdx fun input index =>
          attributed_settleSingle_iff (hsingle index) input
      · exact forall_mem_flatMap_zipIdx (attributed_settleOneShot_iff hitems)

theorem attributed_flush_iff (decision : PersistentFlowDecision) (answers : FlushAnswers)
    (batch : List LocalRuntimeDependencyInput) :
    (∀ effect ∈ flushRuntimeDependencyBatch decision answers batch,
        Attributed denial answers.results effect) ↔
      FlushFits denial decision answers batch := by
  cases decision with
  | connecting => exact iff_of_true (attributed_map .registered (fun _ => trivial) batch) trivial
  | legacy => exact attributed_flushOneShot_iff answers batch
  | ready =>
      rw [flushRuntimeDependencyBatch, FlushFits]
      cases hport : answers.port with
      | none =>
          dsimp only
          split
          · next hkeeps =>
              exact iff_of_true (attributed_map .registered (fun _ => trivial) batch) (.inl hkeeps)
          · next hloses => rw [attributed_flushOneShot_iff, or_iff_right hloses]
      | some response =>
          have hitems : ∀ item ∈ response.items, item ∈ answers.results :=
            fun item hitem => .inl ⟨response, hport, hitem⟩
          dsimp only
          split
          · exact attributed_flushOneShot_iff answers batch
          · exact forall_mem_flatMap_zipIdx (attributed_settleEnqueued_iff hitems)

/-! ### The prober -/

theorem mem_settledEntries {batch : List ProberEntry} {results : List NativeResponse}
    {entry : ProberEntry}
    {item : NativeResponse} :
    (entry, item) ∈ settledEntries batch results ↔
      entry ∈ batch ∧ results.find? (namesDependency entry.input) = some item ∧
        resolveRuntimeDependencyReadiness item ≠ .pending := by
  rw [settledEntries, List.mem_filterMap]
  constructor
  · rintro ⟨other, hother, hsettled⟩
    split at hsettled
    · cases hsettled
    · rename_i result hresult
      split at hsettled
      · cases hsettled
      · rename_i hpending
        cases hsettled
        exact ⟨hother, hresult, hpending⟩
  · rintro ⟨hentry, hfound, hpending⟩
    refine ⟨entry, hentry, ?_⟩
    rw [findResultForInput, hfound]
    exact if_neg hpending

/-- A result that names the dependency of an entry and decides names its page as well. -/
def PollFits (denial : NativeResponse → Bool) (options : ProberOptions) (entries : List ProberEntry)
    (results : List NativeResponse) : Prop :=
  ∀ entry ∈ entries.take options.maxBatchSize, ∀ item,
    results.find? (namesDependency entry.input) = some item → Decides denial item = true →
      namesAnchor entry.input item = true

theorem attributed_poll_iff (options : ProberOptions) (now : Int) (entries : List ProberEntry)
    (results : List NativeResponse) :
    (∀ effect ∈ poll options now entries results, Attributed denial {item | item ∈ results} effect) ↔
      PollFits denial options entries results := by
  constructor
  · intro hall entry hentry item hfound hdecides
    have hsettled := mem_settledEntries.mpr
      ⟨hentry, hfound, not_pending_of_decides hdecides⟩
    have hmem : Effect.settled entry.input (.item item) ∈ poll options now entries results := by
      refine List.mem_append_left _ (List.mem_flatMap.mpr ⟨_, hsettled, ?_⟩)
      exact settled_mem_settleFinal entry.input (.item item)
    obtain ⟨_, -, ⟨⟩, hfor⟩ := hall _ hmem hdecides
    exact hfor.1
  · intro hall effect heffect
    rcases List.mem_append.mp heffect with hmatched | hold
    · obtain ⟨⟨entry, item⟩, hsettled, hmem⟩ := List.mem_flatMap.mp hmatched
      obtain ⟨hentry, hfound, -⟩ := mem_settledEntries.mp hsettled
      refine attributed_settleFinal (fun hdecides => ?_) effect hmem
      exact ⟨item, List.mem_of_find?_eq_some hfound, rfl,
        hall entry hentry item hfound hdecides, List.find?_some hfound⟩
    · obtain ⟨entry, -, rfl⟩ := List.mem_map.mp hold
      trivial

/-! ### The confirmation -/

/-- The result that is taken for the pair is for it, if it says ready. -/
def ConfirmFits (results : List NativeResponse) (input : LocalRuntimeDependencyInput) : Prop :=
  ∀ item, (results.find? (namesDependency input)).or results.head? = some item →
    isReadyRuntimeDependencyCheckResponse item = true → IsFor input item

theorem attributed_confirm_iff (results : List NativeResponse)
    (input : LocalRuntimeDependencyInput) :
    (∀ effect ∈ confirmCachedRuntimeDependency results input,
        Attributed denial {item | item ∈ results} effect) ↔ ConfirmFits results input := by
  rw [confirmCachedRuntimeDependency, checkRuntimeDependency, ConfirmFits]
  cases hfound : (results.find? (namesDependency input)).or results.head? with
  | none =>
      have hfailed : isReadyRuntimeDependencyCheckResponse failedCheck = false := by decide
      simp [Basis.response, hfailed, Attributed]
  | some item =>
      have hmem : item ∈ results := by
        rcases Option.or_eq_some_iff.mp hfound with hnamed | ⟨-, hhead⟩
        · exact List.mem_of_find?_eq_some hnamed
        · exact List.mem_of_mem_head? hhead
      have hbased : BasedOn {item | item ∈ results} input (.item item) ↔ IsFor input item :=
        basedOn_item_iff hmem
      by_cases hready : isReadyRuntimeDependencyCheckResponse item = true
      · simp [Basis.response, hready, Attributed, hbased]
      · simp [Basis.response, hready, Attributed]

/-- Exactly when the three consumers of results attribute them. -/
theorem attributed_iff (denial : NativeResponse → Bool) :
    (∀ options now entries results,
      (∀ effect ∈ poll options now entries results,
        Attributed denial {item | item ∈ results} effect) ↔
        PollFits denial options entries results) ∧
    (∀ decision answers batch,
      (∀ effect ∈ flushRuntimeDependencyBatch decision answers batch,
        Attributed denial answers.results effect) ↔ FlushFits denial decision answers batch) ∧
    ∀ results input,
      (∀ effect ∈ confirmCachedRuntimeDependency results input,
        Attributed denial {item | item ∈ results} effect) ↔ ConfirmFits results input :=
  ⟨attributed_poll_iff, attributed_flush_iff, attributed_confirm_iff⟩

end Attribution

/-! ## The answers of the native host -/

/-- The state of a pair in the overlay. -/
structure EntryState where
  ready : Bool
  expiresAt : Option Text

def RUNTIME_DEPENDENCY_BATCH_LIMIT : Nat := 20

def checkAction : Text × Json := ("action".toList, .string "check-local-runtime-dependency".toList)

def failedItem (error : String) : NativeResponse :=
  [("success".toList, .bool false), checkAction, ("error".toList, .string error.toList)]

def checkedItem (pair : Text × Text) (state : EntryState) : NativeResponse :=
  [("success".toList, .bool true), checkAction, ("anchorHost".toList, .string pair.1),
    ("dependencyHost".toList, .string pair.2), ("ready".toList, .bool state.ready),
    ("runtimeDependencyState".toList,
      .string (if state.ready then "ready".toList else "pending".toList))] ++
    match state.expiresAt with
    | some expiresAt => [("expiresAt".toList, .string expiresAt)]
    | none => []

/-- The normalized hosts of an entry, if both can be read. -/
def readPair (entry : Json) : Option (Text × Text) :=
  match entry with
  | .object members =>
      let anchorHost := Linux.Overlay.normalizeHost (members.lookup "anchorHost".toList)
      let dependencyHost := Linux.Overlay.normalizeHost (members.lookup "dependencyHost".toList)
      if anchorHost.isEmpty || dependencyHost.isEmpty then none
      else some (anchorHost, dependencyHost)
  | _ => none

/-- `check-local-runtime-dependency` with a list of entries. -/
def checkLocalEntries (states : Text × Text → EntryState) (entries : List Json) :
    List NativeResponse :=
  let read := entries.take RUNTIME_DEPENDENCY_BATCH_LIMIT
  (read.filter fun entry => (readPair entry).isNone).map
      (fun _ => failedItem "Invalid runtime dependency payload") ++
    (read.filterMap readPair).map (fun pair => checkedItem pair (states pair)) ++
    if RUNTIME_DEPENDENCY_BATCH_LIMIT < entries.length then
      [failedItem "Runtime dependency batch limit exceeded"]
    else []

/-- The entry of a request in a check. -/
def checkEntry (input : LocalRuntimeDependencyInput) : Json :=
  .object [("anchorHost".toList, .string input.anchorHost),
    ("dependencyHost".toList, .string input.dependencyHost)]

/-! ## Two sites and one dependency -/

/-- The request for the script of a shared host by a site. -/
def scriptOf (site : String) : ProberEntry where
  input :=
    { anchorHost := site.toList
      dependencyHost := "cdn.example".toList
      requestType := "script".toList }
  registeredAt := 0

def proberOptions : ProberOptions where
  maxBatchSize := 20
  maxEntryAgeMs := 120000

/-- The overlay serves the shared host for the first site only. -/
def firstSiteOnly (pair : Text × Text) : EntryState where
  ready := pair.1 == "one.example".toList
  expiresAt := none

def answerForBoth : List NativeResponse :=
  checkLocalEntries firstSiteOnly
    [checkEntry (scriptOf "one.example").input, checkEntry (scriptOf "two.example").input]

/-- A host that knows no batches. -/
def unknownAction : BatchResponse where
  itself :=
    [("success".toList, .bool false),
      ("error".toList, .string "Unknown action: allow-local-runtime-dependency-batch".toList)]
  results := none

/-- Over the port and started anew it is of the same kind; the first request by itself is
answered, and the call for the second throws. -/
def answersOneByOne : FlushAnswers where
  port := some unknownAction
  keepsPort := true
  oneShot := some unknownAction
  single
    | 0 => some (checkedItem ("one.example".toList, "cdn.example".toList) ⟨true, none⟩)
    | _ => none

theorem single_answersOneByOne {index : Nat} {answer : NativeResponse}
    (hanswer : answer ∈ answersOneByOne.single index) :
    index = 0 ∧ answer = checkedItem ("one.example".toList, "cdn.example".toList) ⟨true, none⟩ := by
  cases index with
  | zero => exact ⟨rfl, (Option.some.inj hanswer).symm⟩
  | succ index => cases hanswer

/-- One request alone is attributed, and so are two that are sent by themselves. -/
theorem attributed_alone :
    (∀ effect ∈ poll proberOptions 1000 [scriptOf "one.example"]
        (checkLocalEntries firstSiteOnly [checkEntry (scriptOf "one.example").input]),
      Attributed (fun _ => true)
        {item | item ∈ checkLocalEntries firstSiteOnly
          [checkEntry (scriptOf "one.example").input]} effect) ∧
      ∀ effect ∈ flushRuntimeDependencyBatch .ready answersOneByOne
          [(scriptOf "one.example").input, (scriptOf "two.example").input],
        Attributed (fun _ => true) answersOneByOne.results effect := by
  constructor
  · refine ((attributed_iff fun _ => true).1 proberOptions 1000 [scriptOf "one.example"] _).mpr ?_
    intro entry hentry item hfound _
    rw [List.mem_singleton.mp hentry] at hfound ⊢
    have hitem : (checkLocalEntries firstSiteOnly
        [checkEntry (scriptOf "one.example").input]).find?
          (namesDependency (scriptOf "one.example").input) =
            some (checkedItem ("one.example".toList, "cdn.example".toList) ⟨true, none⟩) := by
      rfl
    obtain rfl := Option.some.inj (hitem.symm.trans hfound)
    decide
  · refine ((attributed_iff fun _ => true).2.1 _ _ _).mpr ?_
    have hunknown : isBatchUnsupported unknownAction = true := by decide
    have hport : answersOneByOne.port = some unknownAction := rfl
    simp only [FlushFits, hport, hunknown, if_true]
    intro response hresponse
    obtain rfl : unknownAction = response := Option.some.inj hresponse
    rw [if_pos hunknown]
    intro index input hget answer hanswer _
    obtain ⟨rfl, rfl⟩ := single_answersOneByOne hanswer
    obtain rfl : (scriptOf "one.example").input = input := Option.some.inj hget
    exact ⟨by decide, by decide⟩

/-- The request of the second site is remembered as ready on the item of the first. -/
theorem remembered_for_other_site :
    ¬ ∀ effect ∈ poll proberOptions 1000 [scriptOf "one.example", scriptOf "two.example"]
        answerForBoth,
      Attributed (fun _ => true) {item | item ∈ answerForBoth} effect := by
  rw [attributed_poll_iff]
  intro hall
  have hanchor := hall (scriptOf "two.example") (by decide)
    (checkedItem ("one.example".toList, "cdn.example".toList) ⟨true, none⟩) rfl rfl
  revert hanchor
  decide

end OpenPath.Extension.DependencyResults
