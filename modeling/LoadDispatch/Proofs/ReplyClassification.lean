import Mathlib
import LoadDispatch.Agent.Reply

/-!
How an agent's reply becomes the outcome of its node (`reply_outcome_described`). The console tail
is cut by characters, not bytes: it is the suffix of the joined lines that has `min k total`
characters.
-/
namespace LoadDispatch

/-! ### Error lines -/

theorem hasInfix_iff (needle : List Char) :
    ∀ l : List Char, hasInfix needle l = true ↔ needle <:+: l
  | [] => by simp [hasInfix, List.infix_nil]
  | c :: rest => by
    simp [hasInfix, List.infix_cons_iff, List.isPrefixOf_iff_prefix, hasInfix_iff needle rest]

/-- A console line reports an error when one of the markers occurs in it. -/
def MarksError (line : String) : Prop := ∃ m ∈ errorMarkers, m.toList <:+: line.toList

theorem isErrorLine_iff (line : String) : isErrorLine line = true ↔ MarksError line := by
  simp [isErrorLine, MarksError, hasInfix_iff]

theorem isErrorLine_eq_false (line : String) : isErrorLine line = false ↔ ¬MarksError line := by
  rw [← isErrorLine_iff, Bool.not_eq_true]

/-- `line` is the first line of a console that reports an error. -/
def FirstMarked (console : List String) (line : String) : Prop :=
  MarksError line ∧ ∃ before after, console = before ++ line :: after ∧ ∀ l ∈ before, ¬MarksError l

theorem find?_isErrorLine_eq_some (console : List String) (line : String) :
    console.find? isErrorLine = some line ↔ FirstMarked console line := by
  simp [List.find?_eq_some_iff_append, FirstMarked, isErrorLine_iff, isErrorLine_eq_false]

theorem find?_isErrorLine_eq_none (console : List String) :
    console.find? isErrorLine = none ↔ ∀ l ∈ console, ¬MarksError l := by
  simp [List.find?_eq_none, isErrorLine_iff]

/-! ### The console tail -/

/-- `t` is the tail of a console kept to `k` characters: the suffix of its lines joined by line
feeds that has `min k total` characters. -/
def IsTail (lines : List String) (k : Nat) (t : String) : Prop :=
  t.toList <:+ ("\n".intercalate lines).toList ∧ t.length = min k ("\n".intercalate lines).length

theorem consoleTail_isTail (lines : List String) (k : Nat) :
    IsTail lines k (consoleTail lines k) := by
  refine ⟨?_, ?_⟩
  · simpa [consoleTail] using List.drop_suffix _ _
  · simp only [consoleTail, String.length_ofList, List.length_drop, String.length_toList]
    omega

-- characters, not bytes: `é` and `ö` count once
example : consoleTail ["héllo", "wörld"] 3 = "rld" := by decide

/-- A console has one tail of each length. -/
theorem IsTail.unique {lines : List String} {k : Nat} {t t' : String} (h : IsTail lines k t)
    (h' : IsTail lines k t') : t = t' := by
  have hlen : t.toList.length = t'.toList.length := by
    simp only [String.length_toList, h.2, h'.2]
  apply String.toList_inj.mp
  rw [List.suffix_iff_eq_drop.mp h.1, List.suffix_iff_eq_drop.mp h'.1, hlen]

/-! ### The outcome of a reply -/

/-- What the outcome of a node says about the agent's reply: it succeeded exactly when the agent
did, and its message is the agent's, the console's tail, or the first console line with an error
marker, as the kind of reply decides. -/
structure ReplyOutcome (node : Int) (r : AgentReply) (k : Nat) (o : NodeOutcome) : Prop where
  node_eq : o.nodeId = some node
  success_eq : o.success = r.success
  accepted : r.success = true → o.kind = .accepted ∧ o.message = r.message
  startException : r.success = false → r.exitCode = startExceptionExitCode →
    o.kind = .startException ∧ ∃ t, IsTail r.console k t ∧ o.message = if t = "" then r.message else t
  agentError : r.success = false → r.exitCode ≠ startExceptionExitCode →
    o.kind = .agentError ∧ ((∃ line, FirstMarked r.console line ∧ o.message = line) ∨
      (∀ l ∈ r.console, ¬MarksError l) ∧ o.message = r.message)

theorem classify_replyOutcome (node : Int) (r : AgentReply) (k : Nat) :
    ReplyOutcome node r k (r.classify node k) := by
  unfold AgentReply.classify
  refine ⟨?_, ?_, ?_, ?_, ?_⟩
  · split_ifs <;> rfl
  · split_ifs with hs <;> simp [NodeOutcome.accepted, NodeOutcome.failed, hs]
  · intro hs
    simp [hs, NodeOutcome.accepted]
  · intro hs hx
    refine ⟨by simp [hs, hx, NodeOutcome.failed], consoleTail r.console k,
      consoleTail_isTail _ _, ?_⟩
    simp [hs, hx, NodeOutcome.failed, String.isEmpty_iff]
  · intro hs hx
    simp only [hs, Bool.false_eq_true, if_false, hx, beq_iff_eq, NodeOutcome.failed, true_and]
    -- the message is the first marked line, or the agent's when the search finds none
    rcases hf : r.console.find? isErrorLine with _ | line
    · exact .inr ⟨(find?_isErrorLine_eq_none _).mp hf, rfl⟩
    · exact .inl ⟨line, (find?_isErrorLine_eq_some _ _).mp hf, rfl⟩

example : (AgentReply.classify 1 ⟨false, 1, "agent message", ["boot", "jvm crashed"], 2⟩ 11).message =
    "jvm crashed" := by decide

/-- The description fixes the outcome: the first marked line and the tail are each unique. -/
theorem ReplyOutcome.unique {node : Int} {r : AgentReply} {k : Nat} {o o' : NodeOutcome}
    (h : ReplyOutcome node r k o) (h' : ReplyOutcome node r k o') : o = o' := by
  have hkm : o.kind = o'.kind ∧ o.message = o'.message := by
    cases hr : r.success
    · by_cases hx : r.exitCode = startExceptionExitCode
      · obtain ⟨hk, t, ht, hm⟩ := h.startException hr hx
        obtain ⟨hk', t', ht', hm'⟩ := h'.startException hr hx
        rw [ht.unique ht'] at hm
        exact ⟨hk.trans hk'.symm, hm.trans hm'.symm⟩
      · obtain ⟨hk, hm⟩ := h.agentError hr hx
        obtain ⟨hk', hm'⟩ := h'.agentError hr hx
        have hmsg : ∀ {msg : String}, ((∃ line, FirstMarked r.console line ∧ msg = line) ∨
            (∀ l ∈ r.console, ¬MarksError l) ∧ msg = r.message) →
            msg = (r.console.find? isErrorLine).getD r.message := by
          rintro msg (⟨line, hl, rfl⟩ | ⟨hnone, rfl⟩)
          · rw [(find?_isErrorLine_eq_some _ _).mpr hl]
            rfl
          · rw [(find?_isErrorLine_eq_none _).mpr hnone]
            rfl
        exact ⟨hk.trans hk'.symm, (hmsg hm).trans (hmsg hm').symm⟩
    · obtain ⟨hk, hm⟩ := h.accepted hr
      obtain ⟨hk', hm'⟩ := h'.accepted hr
      exact ⟨hk.trans hk'.symm, hm.trans hm'.symm⟩
  have hn := h.node_eq.trans h'.node_eq.symm
  have hs := h.success_eq.trans h'.success_eq.symm
  cases o
  cases o'
  simp only [NodeOutcome.mk.injEq]
  exact ⟨hn, hs, hkm⟩

/-- An agent's reply becomes exactly the outcome that `ReplyOutcome` describes, and the console
tail is the suffix of `min k total` characters of the joined console. -/
theorem reply_outcome_described :
    (∀ (node : Int) (r : AgentReply) (k : Nat) (o : NodeOutcome),
      r.classify node k = o ↔ ReplyOutcome node r k o) ∧
    ∀ (lines : List String) (k : Nat), IsTail lines k (consoleTail lines k) := by
  refine ⟨fun node r k o => ⟨?_, fun h => (classify_replyOutcome node r k).unique h⟩,
    consoleTail_isTail⟩
  rintro rfl
  exact classify_replyOutcome node r k

end LoadDispatch
