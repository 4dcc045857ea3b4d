import EbsCloud.Cloud

set_option autoImplicit false
set_option relaxedAutoImplicit false

/-!
The lookups `getVolume`, `getSnapshot` and `getInstance`: one `for` loop over a paginated describe
call, `describePages`, then exactly one item. `aggregate` is the spec's pagination aggregator over
the pages a transport serves, and `lookup_served` shows that the loop computes it.
-/

namespace EbsCloud.Lookup

open EbsCloud.Interaction EbsCloud.Interaction.Prog EbsCloud.Ec2 EbsCloud.Cloud

/-- A paginated describe call: the call and its trace event, a page's items and token, and the
request with a token set. -/
structure Describe (I O X : Type) where
  call : I → GoM (Except Error (Option O))
  event : I → Except Error (Option O) → Event
  items : O → Option (List X)
  nextToken : O → Option String
  setNextToken : I → Option String → I
  setNextToken_setNextToken : ∀ r t t', setNextToken (setNextToken r t) t' = setNextToken r t'

variable {I O X : Type}

/-- The `for` loop of the lookups: call, append the page's items, and follow `NextToken` for at most
`fuel` pages. -/
def describePages (d : Describe I O X) (onError : Error → Error) :
    Nat → I → List X → GoM (I × Except Error (List X))
  | 0, _, _ => .stuck
  | fuel + 1, request, acc => do
    match ← d.call request with
    | .error err => return (request, .error (onError err))
    | .ok none => .panic nilDereference
    | .ok (some response) =>
      match d.items response with
      | none => .panic nilDereference
      | some items =>
        if stringValue (d.nextToken response) = "" then return (request, .ok (acc ++ items))
        else
          describePages d onError fuel (d.setNextToken request (d.nextToken response)) (acc ++ items)

/-- The end of the lookups: `ErrNotFound` for no item, `multi` for several, and otherwise the item. -/
def exactlyOne (multi : Nat → Error) (items : List X) : Except Error X :=
  match items with
  | [] => .error ErrNotFound
  | [x] => .ok x
  | _ => .error (multi items.length)

/-- A lookup: the loop, then exactly one item; it returns the request the loop mutated. -/
def lookup (d : Describe I O X) (onError : Error → Error) (multi : Nat → Error) (fuel : Nat)
    (request : I) : GoM (I × Except Error X) := do
  let (request, items) ← describePages d onError fuel request []
  return (request, items.bind (exactlyOne multi))

def volumePages : Describe DescribeVolumesInput DescribeVolumesOutput (Option Volume) where
  call := describeVolumesWithContext
  event request reply := ⟨.describeVolumes request, reply⟩
  items response := some response.volumes
  nextToken := DescribeVolumesOutput.nextToken
  setNextToken request token := { request with nextToken := token }
  setNextToken_setNextToken _ _ _ := rfl

def snapshotPages : Describe DescribeSnapshotsInput DescribeSnapshotsOutput (Option Ec2.Snapshot) where
  call := describeSnapshotsWithContext
  event request reply := ⟨.describeSnapshots request, reply⟩
  items response := some response.snapshots
  nextToken := DescribeSnapshotsOutput.nextToken
  setNextToken request token := { request with nextToken := token }
  setNextToken_setNextToken _ _ _ := rfl

/-- The instances of the reservations, in order; nil when a reservation is nil. -/
def reservationInstances : List (Option Reservation) → Option (List (Option Instance))
  | [] => some []
  | none :: _ => none
  | some reservation :: rest => (reservationInstances rest).map (reservation.instances ++ ·)

def instancePages : Describe DescribeInstancesInput DescribeInstancesOutput (Option Instance) where
  call := describeInstancesWithContext
  event request reply := ⟨.describeInstances request, reply⟩
  items response := reservationInstances response.reservations
  nextToken := DescribeInstancesOutput.nextToken
  setNextToken request token := { request with nextToken := token }
  setNextToken_setNextToken _ _ _ := rfl

def getVolume (fuel : Nat) (request : DescribeVolumesInput) :
    GoM (DescribeVolumesInput × Except Error (Option Volume)) :=
  lookup volumePages id (fun _ => ErrMultiDisks) fuel request

def getSnapshot (fuel : Nat) (request : DescribeSnapshotsInput) :
    GoM (DescribeSnapshotsInput × Except Error (Option Ec2.Snapshot)) :=
  lookup snapshotPages id (fun _ => ErrMultiSnapshots) fuel request

/-- The error `getInstance` returns for a transport error. -/
def instanceError (err : Error) : Error :=
  if isAWSErrorInstanceNotFound err then ErrNotFound
  else .errorf "error listing AWS instances: %q" [.err err]

def getInstance (fuel : Nat) (nodeID : String) : GoM (Except Error (Option Instance)) := do
  let (_, inst) ← lookup instancePages instanceError
    (fun l => .errorf "found %d instances with ID %q" [.int l, .str nodeID]) fuel
    { instanceIds := [nodeID] }
  return inst

section Calls

variable {A : Call → Prop}

theorem calls_describePages (d : Describe I O X) (onError : Error → Error)
    (hd : ∀ i, Calls A (d.call i)) :
    ∀ (fuel : Nat) (request : I) (acc : List X), Calls A (describePages d onError fuel request acc)
  | 0, _, _ => trivial
  | fuel + 1, request, acc => calls_bind (hd request) fun
    | .error _ | .ok none => trivial
    | .ok (some response) => by
      dsimp only
      split
      · trivial
      · split
        · trivial
        · exact calls_describePages d onError hd fuel _ _

theorem calls_lookup (d : Describe I O X) (onError : Error → Error) (multi : Nat → Error)
    (hd : ∀ i, Calls A (d.call i)) (fuel : Nat) (request : I) :
    Calls A (lookup d onError multi fuel request) :=
  calls_bind (calls_describePages d onError hd _ _ _) fun _ => trivial

theorem calls_getVolume (hd : ∀ i, A (.describeVolumes i)) (fuel : Nat)
    (request : DescribeVolumesInput) : Calls A (getVolume fuel request) :=
  calls_lookup volumePages _ _ (fun i => ⟨hd i, fun _ => trivial⟩) fuel request

theorem calls_getSnapshot (hd : ∀ i, A (.describeSnapshots i)) (fuel : Nat)
    (request : DescribeSnapshotsInput) : Calls A (getSnapshot fuel request) :=
  calls_lookup snapshotPages _ _ (fun i => ⟨hd i, fun _ => trivial⟩) fuel request

theorem calls_getInstance (hd : ∀ i, A (.describeInstances i)) (fuel : Nat) (nodeID : String) :
    Calls A (getInstance fuel nodeID) :=
  calls_bind (calls_lookup instancePages _ _ (fun i => ⟨hd i, fun _ => trivial⟩) _ _)
    fun _ => trivial

end Calls

section OnePage

variable {σ : Type} (env : Env σ) (fuel : Nat) (request : DescribeVolumesInput) {s s' : σ}

theorem ending_getVolume_page {volumes : List (Option Volume)} {nextToken : Option String}
    (h : env.answer (.describeVolumes request) s = (.ok (some ⟨volumes, nextToken⟩), s'))
    (hlast : stringValue nextToken = "") :
    (run env (getVolume (fuel + 1) request) s).ending =
      (.returned (request, exactlyOne (fun _ => ErrMultiDisks) volumes), s') := by
  simp only [getVolume, lookup, describePages, volumePages, describeVolumesWithContext, bind_eq,
    call_bind, ret_bind]
  rw [ending_run_call env h]
  simp [hlast]
  rfl

theorem ending_getVolume_error {e : Error}
    (h : env.answer (.describeVolumes request) s = (.error e, s')) :
    (run env (getVolume (fuel + 1) request) s).ending = (.returned (request, .error e), s') := by
  simp only [getVolume, lookup, describePages, volumePages, describeVolumesWithContext, bind_eq,
    call_bind, ret_bind]
  rw [ending_run_call env h]
  rfl

end OnePage

section OneSnapshotPage

variable {σ : Type} (env : Env σ) (fuel : Nat) (request : DescribeSnapshotsInput) {s s' : σ}

theorem ending_getSnapshot_page {snapshots : List (Option Ec2.Snapshot)} {nextToken : Option String}
    (h : env.answer (.describeSnapshots request) s = (.ok (some ⟨snapshots, nextToken⟩), s'))
    (hlast : stringValue nextToken = "") :
    (run env (getSnapshot (fuel + 1) request) s).ending =
      (.returned (request, exactlyOne (fun _ => ErrMultiSnapshots) snapshots), s') := by
  simp only [getSnapshot, lookup, describePages, snapshotPages, describeSnapshotsWithContext,
    bind_eq, call_bind, ret_bind]
  rw [ending_run_call env h]
  simp [hlast]
  rfl

theorem ending_getSnapshot_error {e : Error}
    (h : env.answer (.describeSnapshots request) s = (.error e, s')) :
    (run env (getSnapshot (fuel + 1) request) s).ending = (.returned (request, .error e), s') := by
  simp only [getSnapshot, lookup, describePages, snapshotPages, describeSnapshotsWithContext,
    bind_eq, call_bind, ret_bind]
  rw [ending_run_call env h]
  rfl

end OneSnapshotPage

/-! ### Lookups that never panic -/

section Sat

variable {S : Prop} {P : (c : Call) → c.Reply → Prop}

/-- A readable reply with items in `G` that, unless `S`, is a last page or leads to a lower `rank`. -/
def Describe.Readable (d : Describe I O X) (S : Prop) (G : X → Prop) (rank : I → Nat)
    (request : I) : Except Error (Option O) → Prop
  | .error _ => True
  | .ok none => False
  | .ok (some o) =>
    ∃ items, d.items o = some items ∧ (∀ x ∈ items, G x) ∧
      (S ∨ stringValue (d.nextToken o) = "" ∨
        rank (d.setNextToken request (d.nextToken o)) < rank request)

theorem sat_describePages (d : Describe I O X) (onError : Error → Error) (G : X → Prop)
    (rank : I → Nat) (hd : ∀ i, Sat S P (d.Readable S G rank i) (d.call i)) :
    ∀ (fuel : Nat) (request : I) (acc : List X), (S ∨ rank request < fuel) → (∀ x ∈ acc, G x) →
      Sat S P (fun r => ∀ items, r.2 = .ok items → ∀ x ∈ items, G x)
        (describePages d onError fuel request acc)
  | 0, _, _, hfuel, _ => hfuel.resolve_right (Nat.not_lt_zero _)
  | fuel + 1, request, acc, hfuel, hacc => (hd request).bind fun
    | .error _, _ => fun _ h => nomatch h
    | .ok none, h => h.elim
    | .ok (some o), ⟨items, hitems, hG, hnext⟩ => by
      have hall : ∀ x ∈ acc ++ items, G x := fun x hx => (List.mem_append.1 hx).elim (hacc x) (hG x)
      dsimp only
      rw [hitems]
      dsimp only
      split
      · intro items' h
        cases h
        exact hall
      · refine sat_describePages d onError G rank hd fuel _ _ ?_ hall
        rcases hnext with hS | hlast | hlt
        · exact .inl hS
        · contradiction
        · exact hfuel.imp_right fun h => by omega

theorem sat_lookup (d : Describe I O X) (onError : Error → Error) (multi : Nat → Error)
    (G : X → Prop) (rank : I → Nat) (hd : ∀ i, Sat S P (d.Readable S G rank i) (d.call i))
    (fuel : Nat) (request : I) (hfuel : S ∨ rank request < fuel) :
    Sat S P (fun r => ∀ x, r.2 = .ok x → G x) (lookup d onError multi fuel request) :=
  (sat_describePages d onError G rank hd fuel request [] hfuel (fun _ h => nomatch h)).bind
    fun ⟨_, items⟩ hitems x hx => by
      cases items with
      | error e => cases hx
      | ok items =>
        change exactlyOne multi items = .ok x at hx
        unfold exactlyOne at hx
        split at hx
        · cases hx
        · cases hx
          exact hitems _ rfl _ (List.mem_singleton_self _)
        · cases hx

end Sat

section Reports

variable {F : (c : Call) → c.Reply → Prop}

theorem reports_describePages (d : Describe I O X) (onError : Error → Error) (E : Error → Prop)
    (hd : ∀ i, Reports F (fun r => ∃ e, E e ∧ r = .error e) (d.call i)) :
    ∀ (fuel : Nat) (request : I) (acc : List X),
      Reports F (fun r => ∃ e, E e ∧ r.2 = .error (onError e))
        (describePages d onError fuel request acc)
  | 0, _, _ => trivial
  | fuel + 1, request, acc => (hd request).bind (fun | _, ⟨err, hE, rfl⟩ => ⟨err, hE, rfl⟩) fun
    | .error _ | .ok none => trivial
    | .ok (some response) => by
      dsimp only
      split
      · trivial
      · split
        · trivial
        · exact reports_describePages d onError E hd fuel _ _

theorem reports_lookup (d : Describe I O X) (onError : Error → Error) (multi : Nat → Error)
    (E : Error → Prop) (hd : ∀ i, Reports F (fun r => ∃ e, E e ∧ r = .error e) (d.call i))
    (fuel : Nat) (request : I) :
    Reports F (fun r => ∃ e, E e ∧ r.2 = .error (onError e)) (lookup d onError multi fuel request) :=
  (reports_describePages d onError E hd fuel request []).bind
    (fun | (_, _), ⟨e, hE, he⟩ => ⟨e, hE, by simp only at he; simp only [he]; rfl⟩) fun _ => trivial

theorem reports_getVolume (hF : ∀ i r, F (.describeVolumes i) r → ∃ e, r = .error e)
    (fuel : Nat) (request : DescribeVolumesInput) :
    Reports F (fun r => ∃ e, r.2 = .error e) (getVolume fuel request) :=
  (reports_lookup volumePages _ _ (fun _ => True)
    (fun i r => ⟨fun h => (hF i r h).imp fun _ he => ⟨trivial, he⟩, trivial⟩) fuel request).mono
    fun _ ⟨e, _, he⟩ => ⟨e, he⟩

theorem reports_getSnapshot (hF : ∀ i r, F (.describeSnapshots i) r → ∃ e, r = .error e)
    (fuel : Nat) (request : DescribeSnapshotsInput) :
    Reports F (fun r => ∃ e, r.2 = .error e) (getSnapshot fuel request) :=
  (reports_lookup snapshotPages _ _ (fun _ => True)
    (fun i r => ⟨fun h => (hF i r h).imp fun _ he => ⟨trivial, he⟩, trivial⟩) fuel request).mono
    fun _ ⟨e, _, he⟩ => ⟨e, he⟩

theorem reports_getInstance (E : Error → Prop)
    (hF : ∀ i r, F (.describeInstances i) r → ∃ e, E e ∧ r = .error e) (fuel : Nat)
    (nodeID : String) :
    Reports F (fun r => ∃ e, E e ∧ r = .error (instanceError e)) (getInstance fuel nodeID) :=
  (reports_lookup instancePages _ _ E (fun i r => ⟨hF i r, trivial⟩) fuel _).bind
    (fun _ h => h) fun _ => trivial

end Reports

/-! ### The spec's pagination aggregator -/

/-- A page sequence as a transport serves it: every page but the last carries a token. -/
def Chain (d : Describe I O X) : List O → Prop
  | [] => False
  | [p] => stringValue (d.nextToken p) = ""
  | p :: ps => stringValue (d.nextToken p) ≠ "" ∧ Chain d ps

/-- The replies a transport gives in turn: the pages, or for `some (j, e)` the first `j` and then
`e`. -/
def served (ps : List O) : Option (Nat × Error) → List (Except Error (Option O))
  | none => ps.map fun p => .ok (some p)
  | some (j, e) => (ps.take j).map (fun p => .ok (some p)) ++ [.error e]

def chainRequests (d : Describe I O X) (request : I) (ps : List O) (n : Nat) : List I :=
  request :: (ps.take n).map fun p => d.setNextToken request (d.nextToken p)

/-- The spec's pagination aggregator: the chained requests, and the concatenated items or the error. -/
def pagesOf (d : Describe I O X) (onError : Error → Error) (request : I) (ps : List O)
    (failure : Option (Nat × Error)) : List I × Except Error (List X) :=
  let complete := (chainRequests d request ps (ps.length - 1),
    Except.ok (ps.flatMap fun p => (d.items p).getD []))
  match failure with
  | some (j, e) => if j < ps.length then (chainRequests d request ps j, .error (onError e))
    else complete
  | none => complete

/-- The reference of the lookups: the pages' requests, and exactly one of their items or the error. -/
def aggregate (d : Describe I O X) (onError : Error → Error) (multi : Nat → Error) (request : I)
    (ps : List O) (failure : Option (Nat × Error)) : List I × Except Error X :=
  ((pagesOf d onError request ps failure).1,
    (pagesOf d onError request ps failure).2.bind (exactlyOne multi))

@[simp] theorem chainRequests_zero (d : Describe I O X) (request : I) (ps : List O) :
    chainRequests d request ps 0 = [request] := rfl

theorem chainRequests_cons (d : Describe I O X) (request : I) (p : O) (ps : List O) (n : Nat) :
    chainRequests d request (p :: ps) (n + 1) =
      request :: chainRequests d (d.setNextToken request (d.nextToken p)) ps n := by
  simp [chainRequests, d.setNextToken_setNextToken]

private theorem zipWith_append_of_length_le {α β γ : Type} (f : α → β → γ) :
    ∀ (as : List α) (bs cs : List β), as.length ≤ bs.length →
      List.zipWith f as (bs ++ cs) = List.zipWith f as bs
  | [], _, _, _ => by simp
  | _ :: _, [], _, h => by simp at h
  | a :: as, b :: bs, cs, h => by
    simp only [List.cons_append, List.zipWith_cons_cons, List.length_cons] at h ⊢
    rw [zipWith_append_of_length_le f as bs cs (by omega)]

section Served

variable (d : Describe I O X) (env : Env (List (Except Error (Option O))))
  (hcall : ∀ i r rs, run env (d.call i) (r :: rs) = ⟨[d.event i r], rs, .returned r⟩)
  (onError : Error → Error)
include hcall

theorem run_describePages_succ (fuel : Nat) (request : I) (acc : List X) (r)
    (rs : List (Except Error (Option O))) :
    run env (describePages d onError (fuel + 1) request acc) (r :: rs) =
      (⟨[d.event request r], rs, .returned r⟩ : Run Call Call.Reply _ _).bind fun r =>
        run env (match r with
          | .error err => return (request, .error (onError err))
          | .ok none => .panic nilDereference
          | .ok (some response) =>
            match d.items response with
            | none => .panic nilDereference
            | some items =>
              if stringValue (d.nextToken response) = "" then return (request, .ok (acc ++ items))
              else describePages d onError fuel (d.setNextToken request (d.nextToken response))
                (acc ++ items)) := by
  rw [describePages, bind_eq, run_bind, hcall]

theorem describePages_pages : ∀ (ps : List O), Chain d ps → (∀ p ∈ ps, (d.items p).isSome) →
    ∀ (fuel : Nat), ps.length ≤ fuel → ∀ (request : I) (acc : List X) tail,
    (run env (describePages d onError fuel request acc)
        (ps.map (fun p => .ok (some p)) ++ tail)).trace =
      List.zipWith d.event (chainRequests d request ps (ps.length - 1))
        (ps.map fun p => .ok (some p)) ∧
    ∃ r, (run env (describePages d onError fuel request acc)
        (ps.map (fun p => .ok (some p)) ++ tail)).outcome =
      .returned (r, .ok (acc ++ ps.flatMap fun p => (d.items p).getD []))
  | [], hchain, _, _, _, _, _, _ => hchain.elim
  | p :: ps, hchain, hitems, fuel + 1, hfuel, request, acc, tail => by
    obtain ⟨items, hp⟩ := Option.isSome_iff_exists.1 (hitems p (List.mem_cons_self p ps))
    rw [List.map_cons, List.cons_append, run_describePages_succ d env hcall]
    cases ps with
    | nil =>
      simp only [Chain] at hchain
      simp [Run.bind, hp, hchain, chainRequests]
    | cons q ps =>
      obtain ⟨htoken, hrest⟩ := hchain
      obtain ⟨htrace, r, hr⟩ := describePages_pages (q :: ps) hrest
        (fun x hx => hitems x (List.mem_cons_of_mem p hx)) fuel
        (by simp only [List.length_cons] at hfuel ⊢; omega)
        (d.setNextToken request (d.nextToken p)) (acc ++ items) tail
      simp only [Run.bind, hp, htoken, if_false]
      refine ⟨?_, r, ?_⟩
      · rw [htrace]
        simp only [List.length_cons, Nat.add_sub_cancel, chainRequests_cons, List.map_cons,
          List.zipWith_cons_cons, List.singleton_append]
      · rw [hr]
        simp [hp]
  | _ :: _, _, _, 0, hfuel, _, _, _ => by simp at hfuel

theorem describePages_failure (e : Error) : ∀ (j : Nat) (ps : List O), j < ps.length → Chain d ps →
    (∀ p ∈ ps, (d.items p).isSome) → ∀ (fuel : Nat), ps.length ≤ fuel → ∀ (request : I) (acc : List X),
    (run env (describePages d onError fuel request acc) (served ps (some (j, e)))).trace =
      List.zipWith d.event (chainRequests d request ps j) (served ps (some (j, e))) ∧
    ∃ r, (run env (describePages d onError fuel request acc) (served ps (some (j, e)))).outcome =
      .returned (r, .error (onError e))
  | _, [], hj, _, _, _, _, _, _ => by simp at hj
  | _, _ :: _, _, _, _, 0, hfuel, _, _ => by simp at hfuel
  | 0, p :: ps, _, _, _, fuel + 1, _, request, acc => by
    simp [served, run_describePages_succ d env hcall, Run.bind, chainRequests]
  | j + 1, p :: ps, hj, hchain, hitems, fuel + 1, hfuel, request, acc => by
    obtain ⟨items, hp⟩ := Option.isSome_iff_exists.1 (hitems p (List.mem_cons_self p ps))
    cases ps with
    | nil => simp at hj
    | cons q ps =>
      obtain ⟨htoken, hrest⟩ := hchain
      obtain ⟨htrace, r, hr⟩ := describePages_failure e j (q :: ps)
        (by simp only [List.length_cons] at hj ⊢; omega) hrest
        (fun x hx => hitems x (List.mem_cons_of_mem p hx)) fuel
        (by simp only [List.length_cons] at hfuel ⊢; omega)
        (d.setNextToken request (d.nextToken p)) (acc ++ items)
      have hserved : served (p :: q :: ps) (some (j + 1, e)) =
          .ok (some p) :: served (q :: ps) (some (j, e)) := rfl
      simp only [hserved, run_describePages_succ d env hcall, Run.bind, hp, htoken, if_false]
      exact ⟨by rw [htrace, chainRequests_cons]; rfl, r, hr⟩

/-- The loop against a transport serving a page sequence computes the spec's aggregator. -/
theorem describePages_served {ps : List O} (hchain : Chain d ps)
    (hitems : ∀ p ∈ ps, (d.items p).isSome) (failure : Option (Nat × Error)) {fuel : Nat}
    (hfuel : ps.length ≤ fuel) (request : I) (acc : List X) :
    (run env (describePages d onError fuel request acc) (served ps failure)).trace =
      List.zipWith d.event (pagesOf d onError request ps failure).1 (served ps failure) ∧
    ∃ r, (run env (describePages d onError fuel request acc) (served ps failure)).outcome =
      .returned (r, (pagesOf d onError request ps failure).2.map (acc ++ ·)) := by
  have complete := describePages_pages d env hcall onError ps hchain hitems fuel hfuel request acc
  match failure with
  | none => simpa [served, pagesOf] using complete []
  | some (j, e) =>
    by_cases hj : j < ps.length
    · simpa [pagesOf, hj] using
        describePages_failure d env hcall onError e j ps hj hchain hitems fuel hfuel request acc
    · have hlen : (chainRequests d request ps (ps.length - 1)).length ≤ (ps.map fun p =>
          (Except.ok (some p) : Except Error (Option O))).length := by
        cases ps with
        | nil => exact hchain.elim
        | cons p ps => simp [chainRequests]
      simp only [served, List.take_of_length_le (Nat.le_of_not_lt hj), pagesOf, hj, if_false]
      obtain ⟨htrace, r, hr⟩ := complete [.error e]
      exact ⟨by rw [htrace, zipWith_append_of_length_le _ _ _ _ hlen], r, by simpa using hr⟩

/-- A lookup against a transport serving a page sequence is the reference aggregator. -/
theorem lookup_served (multi : Nat → Error) {ps : List O} (hchain : Chain d ps)
    (hitems : ∀ p ∈ ps, (d.items p).isSome) (failure : Option (Nat × Error)) {fuel : Nat}
    (hfuel : ps.length ≤ fuel) (request : I) :
    (run env (lookup d onError multi fuel request) (served ps failure)).trace =
      List.zipWith d.event (aggregate d onError multi request ps failure).1 (served ps failure) ∧
    ∃ r, (run env (lookup d onError multi fuel request) (served ps failure)).outcome =
      .returned (r, (aggregate d onError multi request ps failure).2) := by
  obtain ⟨htrace, r, hr⟩ :=
    describePages_served d env hcall onError hchain hitems failure hfuel request []
  simp only [lookup, bind_eq, run_bind, Run.bind, hr]
  refine ⟨by simpa using htrace, r, ?_⟩
  simp only [aggregate]
  cases (pagesOf d onError request ps failure).2 <;> rfl

end Served

/-! ### The three lookups against a transport serving pages -/

/-- The reply of a scripted transport once its replies are used up. -/
def exhausted : Error := .new "no more replies"

/-- A transport that answers each DescribeVolumes call with the next of its replies. -/
def volumeScript : Env (List (Except Error (Option DescribeVolumesOutput))) where
  answer
    | .describeVolumes _, rs => (rs.headD (.error exhausted), rs.tail)
    | c, rs => (c.failWith exhausted, rs)

def snapshotScript : Env (List (Except Error (Option DescribeSnapshotsOutput))) where
  answer
    | .describeSnapshots _, rs => (rs.headD (.error exhausted), rs.tail)
    | c, rs => (c.failWith exhausted, rs)

def instanceScript : Env (List (Except Error (Option DescribeInstancesOutput))) where
  answer
    | .describeInstances _, rs => (rs.headD (.error exhausted), rs.tail)
    | c, rs => (c.failWith exhausted, rs)

def instancePage (page : List Reservation × Option String) : DescribeInstancesOutput :=
  ⟨page.1.map some, page.2⟩

theorem reservationInstances_map_some (rs : List Reservation) :
    reservationInstances (rs.map some) = some (rs.flatMap Reservation.instances) := by
  induction rs with
  | nil => rfl
  | cons r rs ih => simp [reservationInstances, ih]

theorem lookups_eq_aggregate (fuel : Nat) :
    (∀ (request : DescribeVolumesInput) (ps : List DescribeVolumesOutput) failure,
      Chain volumePages ps → ps.length ≤ fuel →
      (run volumeScript (getVolume fuel request) (served ps failure)).trace =
        List.zipWith volumePages.event
          (aggregate volumePages id (fun _ => ErrMultiDisks) request ps failure).1
          (served ps failure) ∧
      ∃ r, (run volumeScript (getVolume fuel request) (served ps failure)).outcome =
        .returned (r, (aggregate volumePages id (fun _ => ErrMultiDisks) request ps failure).2)) ∧
    (∀ (request : DescribeSnapshotsInput) (ps : List DescribeSnapshotsOutput) failure,
      Chain snapshotPages ps → ps.length ≤ fuel →
      (run snapshotScript (getSnapshot fuel request) (served ps failure)).trace =
        List.zipWith snapshotPages.event
          (aggregate snapshotPages id (fun _ => ErrMultiSnapshots) request ps failure).1
          (served ps failure) ∧
      ∃ r, (run snapshotScript (getSnapshot fuel request) (served ps failure)).outcome =
        .returned (r,
          (aggregate snapshotPages id (fun _ => ErrMultiSnapshots) request ps failure).2)) ∧
    (∀ (nodeID : String) (pages : List (List Reservation × Option String)) failure,
      Chain instancePages (pages.map instancePage) → pages.length ≤ fuel →
      let onError := fun err => if isAWSError err "InvalidInstanceID.NotFound" then ErrNotFound
        else .errorf "error listing AWS instances: %q" [.err err]
      let multi := fun l => .errorf "found %d instances with ID %q" [.int l, .str nodeID]
      (run instanceScript (getInstance fuel nodeID) (served (pages.map instancePage) failure)).trace =
        List.zipWith instancePages.event
          (aggregate instancePages onError multi { instanceIds := [nodeID] }
            (pages.map instancePage) failure).1
          (served (pages.map instancePage) failure) ∧
      (run instanceScript (getInstance fuel nodeID) (served (pages.map instancePage) failure)).outcome =
        .returned (aggregate instancePages onError multi { instanceIds := [nodeID] }
          (pages.map instancePage) failure).2) := by
  refine ⟨fun request ps failure hchain hfuel => ?_, fun request ps failure hchain hfuel => ?_,
    fun nodeID pages failure hchain hfuel => ?_⟩
  · exact lookup_served volumePages volumeScript (fun _ _ _ => rfl) id _ hchain
      (fun _ _ => rfl) failure hfuel request
  · exact lookup_served snapshotPages snapshotScript (fun _ _ _ => rfl) id _ hchain
      (fun _ _ => rfl) failure hfuel request
  · have hitems : ∀ p ∈ pages.map instancePage, (instancePages.items p).isSome := by
      intro p hp
      obtain ⟨page, -, rfl⟩ := List.mem_map.1 hp
      simp [instancePages, instancePage, reservationInstances_map_some]
    obtain ⟨htrace, r, hr⟩ := lookup_served instancePages instanceScript (fun _ _ _ => rfl)
      instanceError (fun l => .errorf "found %d instances with ID %q" [.int l, .str nodeID])
      hchain hitems failure (by simpa using hfuel) { instanceIds := [nodeID] }
    simp only [getInstance, bind_eq, run_bind, Run.bind, hr]
    exact ⟨by simpa using htrace, rfl⟩

theorem lookups_eq_aggregate_two_pages :
    Chain volumePages [⟨[], some "t"⟩, ⟨[none], none⟩] ∧
    (run volumeScript (getVolume 2 {}) (served [⟨[], some "t"⟩, ⟨[none], none⟩] none)).trace =
      List.zipWith volumePages.event (aggregate volumePages id (fun _ => ErrMultiDisks) {}
        [⟨[], some "t"⟩, ⟨[none], none⟩] none).1 (served [⟨[], some "t"⟩, ⟨[none], none⟩] none) ∧
    Chain snapshotPages [⟨[], none⟩] ∧
    (run snapshotScript (getSnapshot 1 {}) (served [⟨[], none⟩] (some (0, exhausted)))).trace =
      List.zipWith snapshotPages.event (aggregate snapshotPages id (fun _ => ErrMultiSnapshots) {}
        [⟨[], none⟩] (some (0, exhausted))).1 (served [⟨[], none⟩] (some (0, exhausted))) ∧
    Chain instancePages [instancePage ([], none)] ∧
    (run instanceScript (getInstance 1 "i-1") (served [instancePage ([], none)] none)).outcome =
      .returned (aggregate instancePages
        (fun err => if isAWSError err "InvalidInstanceID.NotFound" then ErrNotFound
          else .errorf "error listing AWS instances: %q" [.err err])
        (fun l => .errorf "found %d instances with ID %q" [.int l, .str "i-1"])
        { instanceIds := ["i-1"] } [instancePage ([], none)] none).2 :=
  ⟨⟨by decide, rfl⟩,
    ((lookups_eq_aggregate 2).1 {} [⟨[], some "t"⟩, ⟨[none], none⟩] none ⟨by decide, rfl⟩ le_rfl).1,
    rfl, ((lookups_eq_aggregate 1).2.1 {} [⟨[], none⟩] (some (0, exhausted)) rfl le_rfl).1, rfl,
    ((lookups_eq_aggregate 1).2.2 "i-1" [([], none)] none rfl le_rfl).2⟩

end EbsCloud.Lookup
