import HypercoreAgent.Sse

set_option autoImplicit false

/-!
# The error payload as JSON

`stream_response` ends a failed stream with the payload `{"error": "<str(e)>"}`, built by an
f-string that escapes nothing. A reader that parses the payload as JSON (RFC 8259) gets
`str(e)` back exactly when the message is plain: no quotation mark, no reverse solidus and no
control character (`error_payload_json`). Otherwise the payload is no JSON object of that
shape, or decodes to another string: a quotation mark ends the string early, and a reverse
solidus starts an escape. The `[DONE]` sentinel is not JSON at all. A plain message holds no
newline either, so its event is also framed right (`Sse`).

`decodeErrorPayload` is the reader's side, written from the JSON grammar, not from the
service.
-/

namespace HypercoreAgent

/-- JSON's insignificant whitespace. -/
def jsonWs (c : Char) : Bool := c = ' ' || c = '\t' || c = '\n' || c = '\r'

def skipWs : List Char → List Char
  | [] => []
  | c :: cs => if jsonWs c then skipWs cs else c :: cs

/-- The character a two-character escape `\c` stands for. -/
def escapeChar : Char → Option Char
  | '"' => some '"'
  | '\\' => some '\\'
  | '/' => some '/'
  | 'b' => some (Char.ofNat 8)
  | 'f' => some (Char.ofNat 12)
  | 'n' => some '\n'
  | 'r' => some '\r'
  | 't' => some '\t'
  | _ => none

def hexDigit (c : Char) : Option ℕ :=
  if '0' ≤ c ∧ c ≤ '9' then some (c.toNat - '0'.toNat)
  else if 'a' ≤ c ∧ c ≤ 'f' then some (c.toNat - 'a'.toNat + 10)
  else if 'A' ≤ c ∧ c ≤ 'F' then some (c.toNat - 'A'.toNat + 10)
  else none

/-- The code unit of `\uXXXX`. -/
def hex4 (a b c d : Char) : Option ℕ := do
  let a ← hexDigit a
  let b ← hexDigit b
  let c ← hexDigit c
  let d ← hexDigit d
  pure (((a * 16 + b) * 16 + c) * 16 + d)

/-- A JSON string after its opening quotation mark: its characters, decoded, and what follows
    its closing one. A control character, a bad escape or the end of the input fails. -/
def jsonStringBody : List Char → Option (List Char × List Char)
  | [] => none
  | c :: rest =>
    if c = '"' then some ([], rest)
    else if c = '\\' then
      match rest with
      | 'u' :: a :: b :: c' :: d :: rest' =>
        match hex4 a b c' d with
        | some n => (jsonStringBody rest').map fun r => (Char.ofNat n :: r.1, r.2)
        | none => none
      | e :: rest' =>
        match escapeChar e with
        | some d => (jsonStringBody rest').map fun r => (d :: r.1, r.2)
        | none => none
      | [] => none
    else if c.toNat < 32 then none
    else (jsonStringBody rest).map fun r => (c :: r.1, r.2)

/-- The next character, after whitespace, is `c`. -/
def expect (c : Char) (cs : List Char) : Option (List Char) :=
  match skipWs cs with
  | d :: rest => if d = c then some rest else none
  | [] => none

def jsonString (cs : List Char) : Option (List Char × List Char) := do
  let cs ← expect '"' cs
  jsonStringBody cs

def decodeErrorPayload (payload : String) : Option String := do
  let cs ← expect '{' payload.data
  let (key, cs) ← jsonString cs
  guard (key = "error".data)
  let cs ← expect ':' cs
  let (value, cs) ← jsonString cs
  let cs ← expect '}' cs
  guard (skipWs cs = [])
  pure ⟨value⟩

def JsonPlainChar (c : Char) : Prop := c ≠ '"' ∧ c ≠ '\\' ∧ 32 ≤ c.toNat

instance (c : Char) : Decidable (JsonPlainChar c) := inferInstanceAs (Decidable (_ ∧ _))

def JsonPlain (s : String) : Prop := ∀ c ∈ s.data, JsonPlainChar c

instance (s : String) : Decidable (JsonPlain s) := inferInstanceAs (Decidable (∀ c ∈ s.data, _))

theorem jsonStringBody_quote (rest : List Char) :
    jsonStringBody ('"' :: rest) = some ([], rest) := by
  unfold jsonStringBody
  rfl

theorem jsonStringBody_plain {c : Char} (hc : JsonPlainChar c) (rest : List Char) :
    jsonStringBody (c :: rest) = (jsonStringBody rest).map fun r => (c :: r.1, r.2) := by
  obtain ⟨hq, hb, hctl⟩ := hc
  conv_lhs => unfold jsonStringBody
  simp only [hq, hb, if_false, show ¬c.toNat < 32 by omega]

theorem jsonStringBody_of_plain {m : List Char} (hm : ∀ c ∈ m, JsonPlainChar c)
    (rest : List Char) : jsonStringBody (m ++ '"' :: rest) = some (m, rest) := by
  induction m with
  | nil => exact jsonStringBody_quote rest
  | cons c m ih =>
    rw [List.cons_append, jsonStringBody_plain (hm c (List.mem_cons_self c m)),
      ih fun c' h => hm c' (List.mem_cons_of_mem c h)]
    rfl

theorem jsonStringBody_spec {cs s rest : List Char} (h : jsonStringBody cs = some (s, rest)) :
    ∃ raw, cs = raw ++ '"' :: rest ∧ s.length ≤ raw.length ∧
      (s = raw → ∀ c ∈ raw, JsonPlainChar c) := by
  induction cs using jsonStringBody.induct generalizing s with
  | case1 => cases h
  | case2 cs =>
    rw [jsonStringBody_quote] at h
    obtain ⟨⟩ := h
    exact ⟨[], rfl, le_rfl, fun _ _ h => absurd h (List.not_mem_nil _)⟩
  | case3 a b c' d rest' n hhex _ ih =>
    unfold jsonStringBody at h
    simp only [if_neg (show '\\' ≠ '"' by decide), if_true, hhex, Option.map_eq_some'] at h
    obtain ⟨⟨s', r⟩, hs', ⟨⟩⟩ := h
    obtain ⟨raw, rfl, hlen, -⟩ := ih hs'
    refine ⟨'\\' :: 'u' :: a :: b :: c' :: d :: raw, rfl, by simp; omega, fun he => ?_⟩
    have := congrArg List.length he
    simp at this
    omega
  | case4 a b c' d rest' hhex =>
    unfold jsonStringBody at h
    simp only [if_neg (show '\\' ≠ '"' by decide), if_true, hhex, reduceCtorEq] at h
  | case5 e rest' hnotu d hesc _ ih =>
    unfold jsonStringBody at h
    simp only [if_neg (show '\\' ≠ '"' by decide), if_true] at h
    split at h
    · next d' hd' =>
      rw [hesc, Option.some.injEq] at hd'
      subst hd'
      obtain ⟨⟨s', r⟩, hs', ⟨⟩⟩ := Option.map_eq_some'.mp h
      obtain ⟨raw, rfl, hlen, -⟩ := ih hs'
      refine ⟨'\\' :: e :: raw, rfl, by simp; omega, fun he => ?_⟩
      have := congrArg List.length he
      simp at this
      omega
    · next hnone => rw [hesc] at hnone; cases hnone
  | case6 e rest' _ hesc =>
    unfold jsonStringBody at h
    simp only [if_neg (show '\\' ≠ '"' by decide), if_true] at h
    split at h
    · next hsome => rw [hesc] at hsome; cases hsome
    · cases h
  | case7 =>
    unfold jsonStringBody at h
    simp only [if_neg (show '\\' ≠ '"' by decide), if_true, reduceCtorEq] at h
  | case8 c cs hq hb hctl =>
    unfold jsonStringBody at h
    simp only [hq, hb, hctl, if_false, if_true, reduceCtorEq] at h
  | case9 c cs hq hb hctl ih =>
    unfold jsonStringBody at h
    simp only [hq, hb, hctl, if_false, Option.map_eq_some'] at h
    obtain ⟨⟨s', r⟩, hs', ⟨⟩⟩ := h
    obtain ⟨raw, rfl, hlen, hplain⟩ := ih hs'
    refine ⟨c :: raw, rfl, by simpa using hlen, fun he => ?_⟩
    obtain ⟨-, he⟩ := List.cons.inj he
    intro c' hc'
    rcases List.mem_cons.mp hc' with rfl | hc'
    · exact ⟨hq, hb, by omega⟩
    · exact hplain he c' hc'

theorem ne_nil_of_expect {c : Char} {cs rest : List Char} (h : expect c cs = some rest) :
    cs ≠ [] := by
  rintro rfl
  cases h

theorem decodeErrorPayload_frame (message : String) :
    decodeErrorPayload ("\x7b\"error\": \"" ++ message ++ "\"\x7d") =
      (jsonStringBody (message.data ++ ['"', '\x7d'])).bind fun r =>
        (expect '\x7d' r.2).bind fun cs => if skipWs cs = [] then some ⟨r.1⟩ else none := by
  have hkey := jsonStringBody_of_plain (m := ['e', 'r', 'r', 'o', 'r']) (by decide)
    (':' :: ' ' :: '"' :: (message.data ++ ['"', '\x7d']))
  simp only [List.cons_append, List.nil_append] at hkey
  simp only [decodeErrorPayload, expect, skipWs, jsonWs, ↓Char.isValue, Char.reduceEq,
    decide_False, Bool.or_self, Bool.false_eq_true, ↓reduceIte, List.append_eq, List.nil_append,
    List.cons_append,
    List.singleton_append, jsonString, Option.bind_eq_bind, guard, Option.pure_def,
    Option.some_bind, hkey, decide_True, Bool.or_false]
  congr 1
  funext r
  congr 1
  funext cs
  split <;> rfl

theorem decodeErrorPayload_eq_some_iff (message : String) :
    decodeErrorPayload ("\x7b\"error\": \"" ++ message ++ "\"\x7d") = some message ↔
      JsonPlain message := by
  rw [decodeErrorPayload_frame]
  constructor
  · intro h
    obtain ⟨⟨value, cs⟩, hbody, h⟩ := Option.bind_eq_some.mp h
    obtain ⟨cs', hexp, h⟩ := Option.bind_eq_some.mp h
    have hvalue : value = message.data := by
      split at h
      · exact congrArg String.data (Option.some.inj h)
      · cases h
    obtain ⟨raw, heq, hlen, hplain⟩ := jsonStringBody_spec hbody
    have hcs : 0 < cs.length := List.length_pos.mpr (ne_nil_of_expect hexp)
    have hsum := congrArg List.length heq
    simp only [List.length_append, List.length_cons, List.length_nil] at hsum
    have hraw : message.data = raw :=
      List.append_inj_left heq (by rw [hvalue] at hlen; omega)
    exact fun c hc => hplain (hvalue.trans hraw) c (hraw ▸ hc)
  · intro hp
    rw [jsonStringBody_of_plain hp]
    rfl

/-- The stream's last payload, read as JSON, gives back how the stream ended exactly when
    the error it reports, if any, is plain: a completed stream's `[DONE]` is no JSON, and
    an error message with a quotation mark, a reverse solidus or a control character is
    misread. -/
theorem error_payload_json (ending : StreamEnd) :
    decodeErrorPayload ending.payload = ending.outcome ↔
      ∀ m, ending.outcome = some m → JsonPlain m := by
  cases ending with
  | finalMessage u =>
    have hdone : decodeErrorPayload "[DONE]" = none := by decide
    simp only [StreamEnd.payload, StreamEnd.outcome, hdone, reduceCtorEq]
    simp
  | breaks e | finalFails e =>
    simp only [StreamEnd.payload, StreamEnd.outcome, Option.some.injEq, forall_eq']
    exact decodeErrorPayload_eq_some_iff e.message

example :
    decodeErrorPayload (StreamEnd.breaks (.error "ValueError" "bad \"x\"")).payload = none := by
  decide

end HypercoreAgent
