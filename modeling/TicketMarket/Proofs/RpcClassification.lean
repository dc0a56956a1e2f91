import Mathlib
import TicketMarket.Ledger.Error
import TicketMarket.Proofs.Codec

/-! # RPC errors are sorted by the words of their message

A node reports nonce and fee contention, throttling and timeouts only as free-form text,
so `LedgerError.classifyRpc` sorts an error object by the words its message contains once
ASCII letters are put in lower case. Here "contains" is `List.IsInfix` on the characters
and "lower case" is `String.toLower`, which folds `A` to `Z` and nothing else
(`toLower_eq_ite`): the two helpers of the classifier compute exactly these
(`occursIn_iff`, `asciiLower_toList`).

The words are tried in a fixed order, so a message that names a nonce and a timeout is a
nonce conflict. Whether the executor retries and whether it resets the session then depend
on the words alone (`isRetryable_classifyRpc`, `isPriceContention_classifyRpc`); the main
statement is `rpc_error_sorted_by_words`. -/
set_option autoImplicit false
namespace TicketMarket
namespace LedgerError

/-! ## Substrings and ASCII case -/

theorem occursIn_go_iff (needle hay : List Char) :
    occursIn.go needle hay = true ↔ needle <:+: hay := by
  -- the search tries each suffix of the text in turn for the needle as a prefix
  induction hay with
  | nil => simp [occursIn.go]
  | cons c rest ih =>
    rw [occursIn.go, Bool.or_eq_true, ih, List.infix_cons_iff, beq_iff_eq,
      List.prefix_iff_eq_take, eq_comm]

theorem occursIn_iff (needle hay : String) :
    occursIn needle hay = true ↔ needle.toList <:+: hay.toList :=
  occursIn_go_iff _ _

theorem asciiLower_toList (s : String) : (asciiLower s).toList = s.toLower.toList := by
  rw [String.toLower, String.toList_map, asciiLower, String.toList_ofList]
  exact List.map_congr_left fun c _ => (toLower_eq_ite c).symm

/-- The message, with its ASCII letters in lower case, contains `word`. -/
def Mentions (m word : String) : Prop := word.toList <:+: m.toLower.toList

instance (m word : String) : Decidable (Mentions m word) :=
  inferInstanceAs (Decidable (_ <:+: _))

theorem occursIn_asciiLower (m word : String) :
    occursIn word (asciiLower m) = true ↔ Mentions m word := by
  rw [occursIn_iff, asciiLower_toList]
  rfl

/-! ## The classification -/

/-- The classifier, read as the words it looks for in the order it tries them. -/
theorem classifyRpc_eq (code : Int) (m : String) :
    classifyRpc code m =
      if Mentions m "nonce" then .nonceConflict m
      else if Mentions m "underpriced" then .underpriced m
      else if Mentions m "rate limit" ∨ Mentions m "too many requests" then .rateLimited m
      else if Mentions m "timeout" ∨ Mentions m "timed out" then .timeout m
      else .rpc code m := by
  simp only [classifyRpc, Bool.or_eq_true, occursIn_asciiLower]

/-- An RPC error is worth retrying exactly when its message names one of the six words. -/
theorem isRetryable_classifyRpc (code : Int) (m : String) :
    (classifyRpc code m).isRetryable = true ↔
      ∃ w ∈ ["nonce", "underpriced", "rate limit", "too many requests", "timeout", "timed out"],
        Mentions m w := by
  rw [classifyRpc_eq]
  simp only [List.mem_cons, List.not_mem_nil, or_false, exists_eq_or_imp, exists_eq_left]
  -- the branches in the order the classifier tries them
  by_cases nonce : Mentions m "nonce"
  · simp [nonce, isRetryable]
  by_cases underpriced : Mentions m "underpriced"
  · simp [nonce, underpriced, isRetryable]
  by_cases limited : Mentions m "rate limit" ∨ Mentions m "too many requests"
  · rcases limited with word | word <;> simp [nonce, underpriced, word, isRetryable]
  have unlimited := not_or.mp limited
  by_cases timedOut : Mentions m "timeout" ∨ Mentions m "timed out"
  · rcases timedOut with word | word <;> simp [nonce, underpriced, unlimited, word, isRetryable]
  · simp [nonce, underpriced, unlimited, not_or.mp timedOut, isRetryable]

/-- An RPC error calls for a session reset exactly when its message names a nonce or an
underpriced replacement. -/
theorem isPriceContention_classifyRpc (code : Int) (m : String) :
    (classifyRpc code m).isPriceContention = true ↔
      Mentions m "nonce" ∨ Mentions m "underpriced" := by
  rw [classifyRpc_eq]
  by_cases nonce : Mentions m "nonce"
  · simp [nonce, isPriceContention]
  by_cases underpriced : Mentions m "underpriced"
  · simp [nonce, underpriced, isPriceContention]
  -- neither word: every later branch is a kind that is no contention
  simp only [nonce, underpriced, or_self, iff_false, if_false]
  split_ifs <;> simp [isPriceContention]

/-- An RPC error is sorted by the words of its message in ASCII lower case: a nonce, then
an underpriced replacement, then a rate limit or too many requests, then a timeout;
anything else stays an RPC error with its code. Every kind keeps the message as it came.
Hence it is retried exactly when the message names one of the six words, and resets the
session exactly when it names a nonce or an underpriced replacement. -/
theorem rpc_error_sorted_by_words (code : Int) (m : String) :
    classifyRpc code m =
      (if Mentions m "nonce" then .nonceConflict m
      else if Mentions m "underpriced" then .underpriced m
      else if Mentions m "rate limit" ∨ Mentions m "too many requests" then .rateLimited m
      else if Mentions m "timeout" ∨ Mentions m "timed out" then .timeout m
      else .rpc code m) ∧
    ((classifyRpc code m).isRetryable = true ↔
      ∃ w ∈ ["nonce", "underpriced", "rate limit", "too many requests", "timeout", "timed out"],
        Mentions m w) ∧
    ((classifyRpc code m).isPriceContention = true ↔
      Mentions m "nonce" ∨ Mentions m "underpriced") :=
  ⟨classifyRpc_eq code m, isRetryable_classifyRpc code m, isPriceContention_classifyRpc code m⟩

example : classifyRpc (-32000) "Nonce too low; request timed out" =
    .nonceConflict "Nonce too low; request timed out" := by
  decide

end LedgerError
end TicketMarket
