import Unbundled.Proofs.FileRequests
import Unbundled.Proofs.JsonTexts

namespace Unbundled.Proofs.FailureScripts

open Json Json.Reader JsonGrammar JsonTexts Http FileRequests

def unitsOf (n : Nat) : List Nat :=
  if n < 0x10000 then [n] else [0xD800 + (n - 0x10000) / 0x400, 0xDC00 + (n - 0x10000) % 0x400]

def units (c : Char) : List Nat := unitsOf c.toNat

/-- The code unit that a character behind a backslash stands for, if it is one of those with a meaning
of their own. -/
def singleEscape? : Char → Option Nat
  | 'b' => some 8
  | 't' => some 9
  | 'n' => some 10
  | 'v' => some 11
  | 'f' => some 12
  | 'r' => some 13
  | '"' => some 34
  | '\'' => some 39
  | '\\' => some 92
  | _ => none

def codePoint? (ds : List Char) : Option Nat :=
  if ds.isEmpty then none else ds.foldlM (fun n d => (hexValue? d).map (n * 16 + ·)) 0

def IsPlainEscape (e : Char) : Prop :=
  singleEscape? e = none ∧ e.isDigit = false ∧ e ≠ 'x' ∧ e ≠ 'u' ∧ Text.isLineEnd e = false

/-- The code units that an escape stands for, from behind its backslash on. -/
inductive Escape : List Nat → List Char → List Char → Prop
  | single {e n rest} (he : singleEscape? e = some n) : Escape [n] (e :: rest) rest
  | zero {rest} (h : ¬StartsWithDigit rest) : Escape [0] ('0' :: rest) rest
  | byte {x y n m rest} (hx : hexValue? x = some n) (hy : hexValue? y = some m) :
      Escape [n * 16 + m] ('x' :: x :: y :: rest) rest
  | unicode {n x y z w rest} (hn : hex4? x y z w = some n) :
      Escape [n] ('u' :: x :: y :: z :: w :: rest) rest
  | codePoint {ds n cs rest} (hn : codePoint? ds = some n) (hsize : n ≤ 0x10FFFF)
      (hcs : cs = ds ++ '\x7d' :: rest) : Escape (unitsOf n) ('u' :: '\x7b' :: cs) rest
  | lineEnd {c rest} (hc : Text.isLineEnd c = true) (h : c = '\r' → rest.head? ≠ some '\n') :
      Escape [] (c :: rest) rest
  | lineEnds {rest} : Escape [] ('\r' :: '\n' :: rest) rest
  | plain {e rest} (he : IsPlainEscape e) : Escape (units e) (e :: rest) rest

/-- The code units of a string of a script, and its text from behind the opening quote to behind the
closing one. -/
inductive ScriptSpells : List Nat → List Char → List Char → Prop
  | close {rest} : ScriptSpells [] ('"' :: rest) rest
  | plain {c us cs rest} (hquote : c ≠ '"') (hescape : c ≠ '\\') (hfeed : c ≠ '\n')
      (hreturn : c ≠ '\r') (h : ScriptSpells us cs rest) : ScriptSpells (units c ++ us) (c :: cs) rest
  | escape {us vs cs t rest} (he : Escape us cs t) (h : ScriptSpells vs t rest) :
      ScriptSpells (us ++ vs) ('\\' :: cs) rest

/-- What stands behind the first quote that no backslash takes its meaning from. A backslash takes it
from the character that follows. -/
def behindQuote? : List Char → Option (List Char)
  | [] => none
  | '\\' :: _ :: cs => behindQuote? cs
  | '"' :: rest => some rest
  | _ :: cs => behindQuote? cs

variable {c : Char} {us : List Nat} {cs t rest : List Char}

theorem behindQuote?_cons (hquote : c ≠ '"') (hescape : c ≠ '\\') (cs : List Char) :
    behindQuote? (c :: cs) = behindQuote? cs := by
  rw [behindQuote?]
  · exact fun _ _ h => absurd h hescape
  · exact hquote

theorem digitChar_laws : ∀ n < 16, 32 ≤ n.digitChar.toNat ∧ n.digitChar ≠ '"' ∧ n.digitChar ≠ '\\' := by
  decide

theorem behindQuote?_hex4 (n : Nat) (cs : List Char) :
    behindQuote? (hex4 n ++ cs) = behindQuote? cs := by
  have hdigit : ∀ k cs, behindQuote? ((k % 16).digitChar :: cs) = behindQuote? cs := by
    intro k cs
    obtain ⟨-, hquote, hescape⟩ := digitChar_laws (k % 16) (Nat.mod_lt _ (by decide))
    exact behindQuote?_cons hquote hescape cs
  simp only [hex4, List.map_cons, List.map_nil, List.cons_append, List.nil_append, hdigit]

theorem behindQuote?_escapeChar (c : Char) (cs : List Char) :
    behindQuote? (escapeChar c ++ cs) = behindQuote? cs := by
  have hescaped := escapeChar_escaped c
  generalize escapeChar c = written at hescaped ⊢
  cases hescaped with
  | short he => rfl
  | unicode hc => exact behindQuote?_hex4 c.toNat cs
  | plain hc hquote hescape => exact behindQuote?_cons hquote hescape cs

theorem le_of_mem_hex4 {n : Nat} (h : c ∈ hex4 n) : 32 ≤ c.toNat := by
  simp only [hex4, List.mem_map] at h
  obtain ⟨k, hk, rfl⟩ := h
  refine (digitChar_laws k ?_).1
  simp only [List.mem_cons, List.not_mem_nil, or_false] at hk
  omega

theorem le_of_mem_escapeChar {d : Char} (h : d ∈ escapeChar c) : 32 ≤ d.toNat := by
  have hshort : ∀ e ∈ shortEscapes, 32 ≤ e.2.toNat := by decide
  have hescaped := escapeChar_escaped c
  generalize escapeChar c = written at hescaped h
  cases hescaped with
  | short he =>
      obtain rfl | h := List.mem_cons.mp h
      · decide
      · rw [List.mem_singleton.mp h]
        exact hshort _ he
  | unicode hc =>
      obtain rfl | h := List.mem_cons.mp h
      · decide
      · obtain rfl | h := List.mem_cons.mp h
        · decide
        · exact le_of_mem_hex4 h
  | plain hc hquote hescape => rwa [List.mem_singleton.mp h]

theorem scriptSpells_plain (hquote : c ≠ '"') (hescape : c ≠ '\\') (hcontrol : 32 ≤ c.toNat) :
    ScriptSpells us (c :: cs) rest ↔ ∃ vs, us = units c ++ vs ∧ ScriptSpells vs cs rest := by
  constructor
  · intro h
    cases h with
    | close => exact absurd rfl hquote
    | plain _ _ _ _ h => exact ⟨_, rfl, h⟩
    | escape _ _ => exact absurd rfl hescape
  · rintro ⟨vs, rfl, h⟩
    refine .plain hquote hescape ?_ ?_ h
    · rintro rfl
      exact absurd hcontrol (by decide)
    · rintro rfl
      exact absurd hcontrol (by decide)

theorem scriptSpells_escape {n : Nat}
    (hescape : ∀ us u, Escape us t u ↔ us = [n] ∧ u = cs) :
    ScriptSpells us ('\\' :: t) rest ↔ ∃ vs, us = n :: vs ∧ ScriptSpells vs cs rest := by
  constructor
  · intro h
    cases h with
    | plain _ hplain _ _ _ => exact absurd rfl hplain
    | escape he h =>
        obtain ⟨rfl, rfl⟩ := (hescape _ _).mp he
        exact ⟨_, rfl, h⟩
  · rintro ⟨vs, rfl, h⟩
    exact .escape ((hescape _ _).mpr ⟨rfl, rfl⟩) h

theorem singleEscape?_of_isLineEnd (h : Text.isLineEnd c = true) : singleEscape? c = none := by
  simp only [Text.isLineEnd, Bool.or_eq_true, beq_iff_eq] at h
  rcases h with ((rfl | rfl) | rfl) | rfl <;> rfl

theorem escape_single {e : Char} {n : Nat} (he : singleEscape? e = some n) (us : List Nat)
    (u : List Char) : Escape us (e :: cs) u ↔ us = [n] ∧ u = cs := by
  constructor
  · intro h
    cases h with
    | single he' => exact ⟨by rw [Option.some.inj (he.symm.trans he')], rfl⟩
    | zero | byte | unicode | codePoint | lineEnds => cases he
    | lineEnd hc =>
        rw [singleEscape?_of_isLineEnd hc] at he
        cases he
    | plain he' =>
        rw [he'.1] at he
        cases he
  · rintro ⟨rfl, rfl⟩
    exact .single he

theorem escape_unicode {n : Nat} {x y z w : Char} (hn : hex4? x y z w = some n) (us : List Nat)
    (u : List Char) : Escape us ('u' :: x :: y :: z :: w :: cs) u ↔ us = [n] ∧ u = cs := by
  constructor
  · intro h
    cases h with
    | single he => cases he
    | unicode hn' => exact ⟨by rw [Option.some.inj (hn.symm.trans hn')], rfl⟩
    | codePoint => cases hn
    | lineEnd hc => cases hc
    | plain he => exact absurd rfl he.2.2.2.1
  · rintro ⟨rfl, rfl⟩
    exact .unicode hn

theorem scriptSpells_escapeChar (c : Char) : ScriptSpells us (escapeChar c ++ cs) rest ↔
    ∃ vs, us = units c ++ vs ∧ ScriptSpells vs cs rest := by
  have hshort : ∀ e ∈ shortEscapes, singleEscape? e.2 = some e.1.toNat ∧ units e.1 = [e.1.toNat] := by
    decide
  have hescaped := escapeChar_escaped c
  generalize escapeChar c = written at hescaped ⊢
  cases hescaped with
  | short he =>
      obtain ⟨hsingle, hunits⟩ := hshort _ he
      rw [hunits]
      exact scriptSpells_escape (escape_single hsingle)
  | unicode hc =>
      have hunits : units c = [c.toNat] := if_pos (by omega)
      rw [hunits]
      exact scriptSpells_escape (escape_unicode (hex4?_digitChar c.toNat hc))
  | plain hc hquote hescape => exact scriptSpells_plain hquote hescape hc

theorem behindQuote?_text (s rest : List Char) :
    behindQuote? (s.flatMap escapeChar ++ '"' :: rest) = some rest := by
  induction s with
  | nil => rfl
  | cons c s ih => rw [List.flatMap_cons, List.append_assoc, behindQuote?_escapeChar, ih]

theorem scriptSpells_text (s : List Char) :
    ScriptSpells us (s.flatMap escapeChar ++ '"' :: cs) rest ↔ us = s.flatMap units ∧ rest = cs := by
  induction s generalizing us with
  | nil =>
      constructor
      · intro h
        cases h with
        | close => exact ⟨rfl, rfl⟩
        | plain hquote _ _ _ _ => exact absurd rfl hquote
      · rintro ⟨rfl, rfl⟩
        exact .close
  | cons c s ih =>
      rw [List.flatMap_cons, List.flatMap_cons, List.append_assoc, scriptSpells_escapeChar]
      simp only [ih]
      exact ⟨fun ⟨_, hus, hvs, hrest⟩ => ⟨hvs ▸ hus, hrest⟩, fun ⟨hus, hrest⟩ => ⟨_, hus, rfl, hrest⟩⟩

theorem spells_text_iff (s : List Char) :
    Spells t (s.flatMap escapeChar ++ '"' :: cs) rest ↔ t = s ∧ rest = cs := by
  constructor
  · intro h
    obtain ⟨o, hread⟩ := h.stringBody 0
    obtain ⟨o', hread'⟩ := (@spells_text cs s).stringBody 0
    obtain ⟨rfl, hinput⟩ := Prod.mk.inj (Except.ok.inj (hread.symm.trans hread'))
    exact ⟨rfl, congrArg Input.rest hinput⟩
  · rintro ⟨rfl, rfl⟩
    exact spells_text t

theorem read_quote (s : String) : Json.read (quote s) = .ok (.str s) := by
  have hread := read_compact (.str maxDepth s) (.str s)
  rwa [compact, String.ofList_toList] at hread

/-- The script with a message is a call with one string literal between a fixed start and a fixed end.
No character of the literal is a control character, and no quote in it but the last is without a
backslash. Whatever follows, the literal ends there by the rules of JSON and by those of scripts, and is
the message. The script is what a request is answered with whose loading fails. -/
theorem failed_body (message : String) :
    ∃ inner : List Char,
      (failed message).body =
          ("console.error(" ++ String.ofList ('"' :: inner ++ ['"']) ++ ");\n").toUTF8 ∧
        (∀ c ∈ inner, 32 ≤ c.toNat) ∧
        (∀ rest, behindQuote? (inner ++ '"' :: rest) = some rest) ∧
        Json.read (String.ofList ('"' :: inner ++ ['"'])) = .ok (.str message) ∧
        (∀ cs t rest, Spells t (inner ++ '"' :: cs) rest ↔ t = message.toList ∧ rest = cs) ∧
        (∀ cs us rest, ScriptSpells us (inner ++ '"' :: cs) rest ↔
          us = message.toList.flatMap units ∧ rest = cs) ∧
        ∀ (s : Server) (fs : Files.FileSystem) (r : Request) (fault : Failure), Reads r →
          (s.load fs (queryOf r)).1 = .error fault → fault.text = message →
          (answer s fs r).1.status = 500 ∧ (answer s fs r).1.body = (failed message).body := by
  refine ⟨message.toList.flatMap escapeChar, rfl, fun c hc => ?_, behindQuote?_text _,
    read_quote message, fun cs t rest => spells_text_iff _, fun cs us rest => scriptSpells_text _, ?_⟩
  · obtain ⟨d, -, hd⟩ := List.mem_flatMap.mp hc
    exact le_of_mem_escapeChar hd
  · rintro s fs r fault hreads hload rfl
    rw [answer_of_reads hreads, respond_of_reads hreads, hload]
    exact ⟨status_complete _, body_complete _⟩

def brokenScript : Files.FileSystem :=
  Files.FileSystem.put ⟨.dir []⟩ "/app/a.js" (.file ⟨"f(1 \"a\");\n".toUTF8, ⟨1600000000, 0⟩⟩)

theorem failed_body_quotes :
    let s : Server := ⟨"/app", {}, []⟩
    let r : Request := ⟨"GET", "/a", []⟩
    let message := "Failed to parse /a.js:1:5: Expected ',', got 'string literal (a, \"a\")'"
    (s.load brokenScript (queryOf r)).1.mapError Failure.text = .error message ∧
      (answer s brokenScript r).1.status = 500 ∧
      (answer s brokenScript r).1.body = ("console.error(\"Failed to parse /a.js:1:5: Expected " ++
        "',', got 'string literal (a, \\\"a\\\")'\");\n").toUTF8 := by
  intro s r message
  have hload : (s.load brokenScript (queryOf r)).1.mapError Failure.text = .error message := by
    decide +kernel
  have hscript : failureScript message = "console.error(\"Failed to parse /a.js:1:5: Expected " ++
      "',', got 'string literal (a, \\\"a\\\")'\");\n" := by
    decide +kernel
  cases hfault : (s.load brokenScript (queryOf r)).1 with
  | ok o =>
      rw [hfault] at hload
      cases hload
  | error fault =>
      rw [hfault] at hload
      obtain ⟨-, -, -, -, -, -, -, hsite⟩ := failed_body message
      obtain ⟨hstatus, hbody⟩ := hsite s brokenScript r fault (.inl rfl) hfault (Except.error.inj hload)
      rw [← hscript]
      exact ⟨hload, hstatus, hbody⟩

end Unbundled.Proofs.FailureScripts
