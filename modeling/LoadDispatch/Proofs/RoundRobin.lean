import LoadDispatch.Proofs.SelectionAnswer

/-!
Round robin over a fixed set of candidates picks the cyclic window at the selector's cursor and
moves the cursor on by the number picked, modulo 2^64. Over as many selections as candidates every
candidate is picked equally often, unless the cursor wraps and the number of candidates does not
divide 2^64.
-/
namespace LoadDispatch

/-! ### Stretches of a cycle -/

section Cycle

variable {α : Type} [Inhabited α]

/-- `n` entries of the cycle through `r`, from position `a` on. -/
def cycleStretch (r : List α) (a n : Nat) : List α :=
  (List.range n).map fun m => r.getD ((a + m) % r.length) default

theorem cycleStretch_add (r : List α) (a n m : Nat) :
    cycleStretch r a (n + m) = cycleStretch r a n ++ cycleStretch r (a + n) m := by
  unfold cycleStretch
  rw [List.range_add, List.map_append, List.map_map]
  congr 2
  funext k
  simp only [Function.comp, Nat.add_assoc]

theorem getElem?_cycleStretch (r : List α) (a : Nat) {n m : Nat} (hm : m < n)
    (hr : 0 < r.length) : (cycleStretch r a n)[m]? = r[(a + m) % r.length]? := by
  simp [cycleStretch, hm, List.getElem?_eq_getElem (Nat.mod_lt _ hr)]

theorem take_rotate_eq_cycleStretch (r : List α) (a c : Nat) (hc : c ≤ r.length) :
    (r.rotate a).take c = cycleStretch r a c := by
  apply List.ext_getElem?
  intro m
  by_cases hm : m < c
  · rw [getElem?_cycleStretch r a hm (by omega), List.getElem?_take, if_pos hm,
      List.getElem?_rotate (by omega), Nat.add_comm m a]
  · rw [List.getElem?_eq_none (by simp; omega),
      List.getElem?_eq_none (by simp [cycleStretch]; omega)]

theorem cycleStretch_length (r : List α) (a : Nat) : cycleStretch r a r.length = r.rotate a := by
  rw [← take_rotate_eq_cycleStretch r a r.length le_rfl, List.take_of_length_le]
  simp

theorem flatten_windows (r : List α) (a c k : Nat) :
    ((List.range k).map fun i => cycleStretch r (a + i * c) c).flatten =
      cycleStretch r a (k * c) := by
  induction k with
  | zero => simp [cycleStretch]
  | succ k ih =>
    rw [List.range_succ, List.map_append, List.flatten_append, ih, Nat.succ_mul, cycleStretch_add]
    simp

/-- `c` whole turns from anywhere meet every entry of a cycle without repeats `c` times. -/
theorem count_cycleStretch_turns [BEq α] [LawfulBEq α] {r : List α} (hr : r.Nodup) {x : α}
    (hx : x ∈ r) (a c : Nat) : (cycleStretch r a (c * r.length)).count x = c := by
  induction c with
  | zero => simp [cycleStretch]
  | succ c ih =>
    rw [Nat.succ_mul, cycleStretch_add, List.count_append, ih, cycleStretch_length,
      (List.rotate_perm r _).count_eq, List.count_eq_one_of_mem hr hx]

end Cycle

/-! ### Selections on one selector -/

structure Selection where
  db : Database
  now : Int
  windowMs : Int
  req : SelectionRequest

/-- The nodes each round-robin selection picks, among selections made one after another on one
selector from a cursor; every selection passes the cursor it leaves to the next. -/
def roundRobinPicks (shuffle : Shuffle) : Nat → List Selection → List (List NodeInfo)
  | _, [] => []
  | cursor, x :: xs =>
    let rest := roundRobinPicks shuffle (select shuffle x.db x.now x.windowMs cursor x.req).2 xs
    if x.req.strategy = .roundRobin then x.db.picks shuffle x.req cursor :: rest else rest

/-- Where the cursor stands after `i` moves of `c`, modulo 2^64. -/
def cursorAfter (c : Nat) : Nat → Nat → Nat
  | cursor, 0 => cursor
  | cursor, i + 1 => cursorAfter c ((cursor + c) % Nat.pow 2 64) i

/-- Unless it wraps, or the number of candidates divides 2^64, the cursor after `i` moves is,
modulo the number of candidates, the cursor plus `i * c`. -/
theorem cursorAfter_mod (c L : Nat) :
    ∀ (i cursor : Nat), (L ∣ Nat.pow 2 64 ∨ cursor + i * c < Nat.pow 2 64) →
      cursorAfter c cursor i % L = (cursor + i * c) % L
  | 0, cursor, _ => by simp [cursorAfter]
  | i + 1, cursor, hwrap => by
    have hnext : L ∣ Nat.pow 2 64 ∨ (cursor + c) % Nat.pow 2 64 + i * c < Nat.pow 2 64 := by
      rcases hwrap with hdvd | hlt
      · exact .inl hdvd
      · rw [Nat.succ_mul] at hlt
        rw [Nat.mod_eq_of_lt (show cursor + c < Nat.pow 2 64 by omega)]
        right
        omega
    rw [cursorAfter, cursorAfter_mod c L i _ hnext]
    rcases hwrap with hdvd | hlt
    · -- the reduction modulo 2^64 is invisible modulo a divisor of 2^64
      rw [Nat.add_mod, Nat.mod_mod_of_dvd _ hdvd, ← Nat.add_mod]
      congr 1
      rw [Nat.succ_mul]
      omega
    · rw [Nat.succ_mul] at hlt ⊢
      rw [Nat.mod_eq_of_lt (show cursor + c < Nat.pow 2 64 by omega)]
      congr 1
      omega

theorem rotate_eq_of_mod_eq {β : Type} (l : List β) {a b : Nat}
    (h : a % l.length = b % l.length) : l.rotate a = l.rotate b := by
  rw [← List.rotate_mod l a, h, List.rotate_mod]

theorem roundRobinPicks_ids (shuffle : Shuffle) (ids : List Int) (c : Nat) (hc : 1 ≤ c)
    (hcL : c ≤ ids.length) :
    ∀ (sels : List Selection) (cursor : Nat),
      (∀ x ∈ sels, x.req.strategy = .roundRobin →
        (x.db.admitted x.req).map (·.id) = ids ∧ x.req.count = c) →
      (roundRobinPicks shuffle cursor sels).map (·.map (·.id)) =
        (List.range (sels.countP fun x => x.req.strategy == .roundRobin)).map fun i =>
          (ids.rotate (cursorAfter c cursor i)).take c
  | [], _, _ => by simp [roundRobinPicks]
  | x :: xs, cursor, hsame => by
    have hrest := roundRobinPicks_ids shuffle ids c hc hcL xs
    by_cases hx : x.req.strategy = .roundRobin
    · obtain ⟨hids, hcount⟩ := hsame x List.mem_cons_self hx
      have hk : max x.req.count 1 = c := by omega
      have hne : x.db.admitted x.req ≠ [] := by
        intro h
        rw [h] at hids
        rw [← hids] at hcL
        simp at hcL
        omega
      have hcursor :
          (select shuffle x.db x.now x.windowMs cursor x.req).2 = (cursor + c) % Nat.pow 2 64 := by
        rw [select_snd, if_pos ⟨hx, hne⟩, hk]
      simp only [roundRobinPicks, List.map_cons, hcursor,
        hrest _ fun y hy => hsame y (List.mem_cons_of_mem x hy), List.countP_cons, hx,
        beq_self_eq_true, if_true, List.range_succ_eq_map, List.map_map]
      refine congrArg₂ List.cons ?_ ?_
      · rw [Database.picks_roundRobin hx, hk, List.map_take, List.map_rotate, hids]
        rfl
      · rfl
    · have hcursor : (select shuffle x.db x.now x.windowMs cursor x.req).2 = cursor := by
        rw [select_snd, if_neg fun h => hx h.1]
      have hbeq : (x.req.strategy == .roundRobin) = false := by simpa using hx
      simp only [roundRobinPicks, if_neg hx, hcursor,
        hrest _ fun y hy => hsame y (List.mem_cons_of_mem x hy), List.countP_cons, hbeq,
        Bool.false_eq_true, if_false, Nat.add_zero]

/-- Round-robin fairness: over as many round-robin selections on one selector as there are
candidates, each with the same candidates and count `c`, every candidate is picked exactly `c`
times, unless the cursor wraps past 2^64 within the run and the number of candidates does not divide
2^64. -/
theorem roundRobin_fair (shuffle : Shuffle) (sels : List Selection) (ids : List Int)
    (c cursor : Nat)
    (hdb : ∀ x ∈ sels, x.db.NodeIdsUnique)
    (hsame : ∀ x ∈ sels, x.req.strategy = .roundRobin →
      (x.db.admitted x.req).map (·.id) = ids ∧ x.req.count = c)
    (hlen : sels.countP (fun x => x.req.strategy == .roundRobin) = ids.length)
    (hc : 1 ≤ c) (hcL : c ≤ ids.length)
    (hwrap : ids.length ∣ Nat.pow 2 64 ∨ cursor + (ids.length - 1) * c < Nat.pow 2 64) :
    ∀ n ∈ ids, ((roundRobinPicks shuffle cursor sels).map (·.map (·.id))).flatten.count n = c := by
  intro n hn
  have hnd : ids.Nodup := by
    obtain ⟨x, hx, hrr⟩ : ∃ x ∈ sels, (x.req.strategy == .roundRobin) = true :=
      List.countP_pos_iff.mp (by rw [hlen]; exact List.length_pos_of_mem hn)
    rw [← (hsame x hx (by simpa using hrr)).1]
    exact Database.admitted_ids_nodup (hdb x hx)
  have hwindows : ∀ i ∈ List.range ids.length,
      (ids.rotate (cursorAfter c cursor i)).take c = cycleStretch ids (cursor + i * c) c := by
    intro i hi
    have hi' : i < ids.length := List.mem_range.mp hi
    have hmod := cursorAfter_mod c ids.length i cursor (hwrap.imp id fun h =>
      lt_of_le_of_lt (Nat.add_le_add_left (Nat.mul_le_mul_right c (by omega)) cursor) h)
    rw [rotate_eq_of_mod_eq ids hmod, take_rotate_eq_cycleStretch ids _ c hcL]
  rw [roundRobinPicks_ids shuffle ids c hc hcL sels cursor hsame, hlen, List.map_congr_left hwindows,
    flatten_windows, Nat.mul_comm, count_cycleStretch_turns hnd hn]

theorem nodeTrio_admitted (req : SelectionRequest) (hpool : req.pool = .tenant 1)
    (havail : req.available = none) (hex : req.exclude = []) :
    nodeTrio.admitted req = nodeTrio.nodes.map nodeTrio.info := by
  have hsorted : nodeTrio.nodesById = nodeTrio.nodes := sortBy_of_pairwise _ (by decide)
  unfold Database.admitted Database.candidates SelectionRequest.passes
  rw [hsorted, hpool, havail, hex]
  decide

def trioTurn (count : Nat) : Selection :=
  ⟨nodeTrio, 0, 0, { count, pool := .tenant 1, strategy := .roundRobin, requireLive := false }⟩

/-- Three selections of two nodes out of three, from the cursor 7, pick each node twice. -/
theorem trioTurns_fair :
    [1, 2, 3].map (fun n : Int =>
        ((roundRobinPicks .keep 7 [trioTurn 2, trioTurn 2, trioTurn 2]).map (·.map (·.id))).flatten.count
          n) = [2, 2, 2] := by
  have hfair := roundRobin_fair .keep [trioTurn 2, trioTurn 2, trioTurn 2] [1, 2, 3] 2 7
    (by simp only [List.mem_cons, List.not_mem_nil, or_false, forall_eq_or_imp, forall_eq,
      trioTurn, and_self]; unfold Database.NodeIdsUnique; decide)
    (by
      simp only [List.mem_cons, List.not_mem_nil, or_false, forall_eq_or_imp, forall_eq, and_self]
      intro _
      unfold trioTurn
      rw [nodeTrio_admitted _ rfl rfl rfl]
      decide)
    (by decide) (by decide) (by decide) (.inr (by decide))
  simp only [List.map_cons, List.map_nil, hfair 1 (by decide), hfair 2 (by decide),
    hfair 3 (by decide)]

/-- Past the wrap of the cursor the windows no longer tile the candidates: from 2^64 - 1, three
single picks out of three take node 1 twice and node 3 never. -/
theorem roundRobin_repeats_past_wrap :
    (roundRobinPicks .keep (Nat.pow 2 64 - 1) [trioTurn 1, trioTurn 1, trioTurn 1]).map
      (·.map (·.id)) = [[1], [1], [2]] := by
  rw [roundRobinPicks_ids .keep [1, 2, 3] 1 le_rfl (by decide)]
  · decide
  · simp only [List.mem_cons, List.not_mem_nil, or_false, forall_eq_or_imp, forall_eq, and_self]
    intro _
    unfold trioTurn
    rw [nodeTrio_admitted _ rfl rfl rfl]
    decide

end LoadDispatch
