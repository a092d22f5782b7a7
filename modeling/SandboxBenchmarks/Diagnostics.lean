import Mathlib.Data.List.Sort
import SandboxBenchmarks.Library.Masking
import SandboxBenchmarks.Library.Utf16

/-!
# Diagnostics of a failed driver

The projection of an error chain that reaches a public log. Every secret is replaced
in three spellings, one after the other, before anything is cut off, and the whole
text passes through the replacement again after it was composed.
-/

namespace Diagnostics

open Utf16 Masking

/-! ## The replacement -/

def redacted : Text := ascii "<REDACTED>"

/-- The secrets as they are replaced: each once, the empty one left out, longer ones
first. -/
def ordered (secrets : List Text) : List Text :=
  (secrets.eraseDups.filter (fun secret => secret ≠ [])).insertionSort
    (fun a b => b.length ≤ a.length)

/-- `JSON.stringify(secret).slice(1, -1)` -/
def jsonForm (secret : Text) : Text := ((stringify secret).drop 1).dropLast

def forms (secret : Text) : Option (List Text) :=
  (encodeURIComponent secret).map (fun encoded =>
    [secret, encoded, jsonForm secret].eraseDups)

def tokenUnit (c : UInt16) : Bool := letter c || decimalUnit c || c ∈ ascii "+/_=.-"

/-- The length of the scheme a credential begins with. -/
def scheme (text : Text) : Option Nat :=
  if (text.take 6).map lowerUnit = ascii "bearer" then some 6
  else if (text.take 5).map lowerUnit = ascii "basic" then some 5
  else none

/-- `/\b(Bearer|Basic)\s+[A-Za-z0-9+/_=.-]+/gi` at one place; the scheme stays. -/
def credential (before : Option UInt16) (text : Text) : Option (Hit UInt16) :=
  if before.any wordUnit then none
  else match scheme text with
    | none => none
    | some n =>
      let spaces := (text.drop n).takeWhile space
      let token := ((text.drop n).dropWhile space).takeWhile tokenUnit
      if spaces = [] ∨ token = [] then none
      else some ⟨n, n + spaces.length + token.length, ascii " " ++ redacted⟩

/-- `none` is the `URIError` of a secret with an unpaired surrogate. -/
def redactDiagnosticText (text : Text) (secrets : List Text) : Option Text :=
  ((ordered secrets).mapM forms).map (fun spelled =>
    rewrite credential
      (spelled.flatten.foldl (fun output form => replaceAll form redacted output) text))

example : redactDiagnosticText (ascii "Bearer key/1+2 key%2F1")
    [ascii "key/1", ascii "key/1+2"] = some (ascii "Bearer <REDACTED> <REDACTED>") := by
  decide +kernel

/-! ## The error chain -/

/-- What may be thrown: objects and primitive values that are no texts are told apart by
their identity. -/
inductive Thrown where
  | text (s : Text)
  | object (ref : Nat)
  | primitive (key : Nat)
deriving DecidableEq

section Chains

variable {Number : Type} (numberText : Number → Text)

structure DriverError (Number : Type) where
  message : Text
  vendorMessage : Option Text
  vendorHttpStatus : Option Number
  vendorExitCode : Option Number

/-- An object as the two brands and `instanceof Error` sort it. -/
inductive Shape (Number : Type) where
  | failedCreateCleanup (suppressed error : Thrown)
  | driverError (error : DriverError Number)
  | error (message : Text)
  | other

def DriverError.parts (error : DriverError Number) : List Text :=
  [error.message]
    ++ (match error.vendorMessage with
        | some vendor =>
          if vendor ≠ [] ∧ ¬ vendor <:+: error.message then [vendor] else []
        | none => [])
    ++ (match error.vendorHttpStatus with
        | some status => [ascii "HTTP " ++ numberText status]
        | none => [])
    ++ (match error.vendorExitCode with
        | some code => [ascii "process exit " ++ numberText code]
        | none => [])

/-- `left` levels of the chain may still be entered; the values seen on the way are
passed on, from the suppressed failure to the failure of the cleanup. -/
def describe (heap : Nat → Shape Number) (secrets : List Text) :
    Nat → List Thrown → Thrown → Option (Text × List Thrown)
  | 0, seen, _ => some (ascii "diagnostic chain truncated", seen)
  | left + 1, seen, value =>
    if value ∈ seen then some (ascii "diagnostic chain truncated", seen)
    else
      let seen := value :: seen
      match value with
      | .text s => some (s, seen)
      | .primitive _ => some (ascii "Unknown failure", seen)
      | .object ref =>
        match heap ref with
        | .failedCreateCleanup suppressed error =>
          (describe heap secrets left seen suppressed).bind (fun first =>
            (describe heap secrets left first.2 error).map (fun second =>
              (first.1 ++ ascii "; cleanup failed: " ++ second.1, second.2)))
        | .driverError error =>
          (redactDiagnosticText
            (List.intercalate (ascii "; ") (error.parts numberText)) secrets).map
              (fun text => (text.take 8192, seen))
        | .error message => some (message, seen)
        | .other => some (ascii "Unknown failure", seen)

def describeDriverFailure (heap : Nat → Shape Number) (error : Thrown)
    (secrets : List Text) : Option Text :=
  (describe numberText heap secrets 5 [] error).bind (fun described =>
    (redactDiagnosticText described.1 secrets).map (·.take 16384))

end Chains

/-! ## What may not show -/

/-- Well formed, without white space and angle brackets, and no part of `REDACTED`. -/
structure Secret (secret : Text) : Prop where
  formed : isWellFormed secret = true
  plain : ∀ c ∈ secret, space c = false ∧ c ∉ ascii "<>"
  apart : ¬ secret <:+: ascii "REDACTED"

/-- Neither the secret nor its URI-encoded or JSON-escaped form occurs. -/
structure Conceals (secret output : Text) : Prop where
  raw : ¬ secret <:+: output
  encoded : ∀ form, encodeURIComponent secret = some form → ¬ form <:+: output
  escaped : ¬ jsonForm secret <:+: output

/-- The brackets of a mark and the blank before it. -/
def Stop (c : UInt16) : Prop := c ∈ ascii "<> "

instance : DecidablePred Stop := fun c => inferInstanceAs (Decidable (c ∈ ascii "<> "))

/-- A spelling of a secret that the replacement deals with. -/
structure Spelling (form : Text) : Prop where
  openly : Open Stop form
  nonempty : form ≠ []
  hidden : ¬ form <:+: redacted
  blank : ¬ form <:+: ascii " " ++ redacted

theorem fenced_redacted : Fenced Stop redacted where
  first := ⟨0x3C, _, rfl, by decide⟩
  last := ⟨ascii "<REDACTED", 0x3E, by decide, by decide⟩

theorem fenced_blank : Fenced Stop (ascii " " ++ redacted) where
  first := ⟨0x20, _, rfl, by decide⟩
  last := ⟨ascii " <REDACTED", 0x3E, by decide, by decide⟩

theorem jsonForm_eq (secret : Text) : jsonForm secret = quoteUnits secret := by
  simp [jsonForm, stringify]

theorem not_stop {c : UInt16} (hs : space c = false) (hb : c ∉ ascii "<>") : ¬ Stop c := by
  intro stop
  have listed : ∀ d ∈ ascii "<> ", space d = true ∨ d ∈ ascii "<>" := forall_of_all (by decide)
  rcases listed c stop with blank | bracket
  · rw [hs] at blank
    exact absurd blank (by decide)
  · exact hb bracket

theorem percentUnit_not_stop {c : UInt16} (h : PercentUnit c) : ¬ Stop c := by
  have digits : ∀ n < 16, ¬ upperHex n ∈ ascii "<> " := by decide
  rcases h with rfl | ⟨n, hn, rfl⟩
  · exact (by decide : ¬ (0x25 : UInt16) ∈ ascii "<> ")
  · exact digits n hn

theorem quoteUnit_not_stop {c : UInt16} (h : QuoteUnit c) : ¬ Stop c := by
  have digits : ∀ n < 16, ¬ lowerHex n ∈ ascii "<> " := by decide
  have written : ∀ d ∈ ascii "\\btnfr\"u", ¬ d ∈ ascii "<> " := forall_of_all (by decide)
  rcases h with h | ⟨n, hn, rfl⟩
  · exact written c h
  · exact digits n hn

/-- A form without stop symbols that is no part of `REDACTED` is no part of a mark. -/
theorem spelling_of {form : Text} (openly : Open Stop form)
    (apart : ¬ form <:+: ascii "REDACTED") : Spelling form := by
  have nonempty : form ≠ [] := by
    rintro rfl
    exact apart List.nil_infix
  have hidden : ¬ form <:+: redacted := fun h =>
    apart (infix_fenced (c := 0x3C) (d := 0x3E) openly (by decide) (by decide) h)
  refine ⟨openly, nonempty, hidden, fun h => ?_⟩
  have blank : form <:+: [] ++ 0x20 :: redacted := h
  rcases infix_around openly (by decide) blank with ahead | behind
  · exact nonempty (List.infix_nil.mp ahead)
  · exact hidden behind

section Spellings

variable {secret : Text} (h : Secret secret)

include h

theorem Secret.open_raw : Open Stop secret :=
  fun c hc => not_stop (h.plain c hc).1 (h.plain c hc).2

theorem Secret.raw : Spelling secret := spelling_of h.open_raw h.apart

theorem Secret.encoded {form : Text} (hf : encodeURIComponent secret = some form) :
    Spelling form := by
  refine spelling_of ?_ ?_
  · intro c hc
    rcases mem_encodeURIComponent hf c hc with own | percent
    · exact h.open_raw c own
    · exact percentUnit_not_stop percent
  · -- a part of `REDACTED` has no `%`, so it would be the secret
    intro part
    have plain : 0x25 ∉ form := fun hc =>
      absurd (part.subset hc) (by decide)
    rw [eq_of_encodeURIComponent hf plain] at part
    exact h.apart part

theorem Secret.escaped : Spelling (jsonForm secret) := by
  rw [jsonForm_eq]
  refine spelling_of ?_ ?_
  · intro c hc
    rcases mem_quoteUnits c hc with own | quote
    · exact h.open_raw c own
    · exact quoteUnit_not_stop quote
  · intro part
    have plain : 0x5C ∉ quoteUnits secret := fun hc =>
      absurd (part.subset hc) (by decide)
    rw [eq_of_quoteUnits plain] at part
    exact h.apart part

theorem Secret.forms_eq : ∃ spelled, forms secret = some spelled ∧
    (∀ form ∈ spelled, Spelling form) ∧ secret ∈ spelled ∧ jsonForm secret ∈ spelled ∧
    ∀ form, encodeURIComponent secret = some form → form ∈ spelled := by
  obtain ⟨encoded, he⟩ := encodeURIComponent_wellFormed h.formed
  refine ⟨_, by rw [forms, he]; rfl, ?_, ?_, ?_, ?_⟩
  · intro form hf
    simp only [List.mem_eraseDups, List.mem_cons, List.not_mem_nil, or_false] at hf
    rcases hf with rfl | rfl | rfl
    · exact h.raw
    · exact h.encoded he
    · exact h.escaped
  · simp
  · simp
  · intro form hf
    rw [he] at hf
    cases hf
    simp

end Spellings

/-! ## The replacement conceals -/

theorem mem_ordered {secrets : List Text} {secret : Text} :
    secret ∈ ordered secrets ↔ secret ∈ secrets ∧ secret ≠ [] := by
  simp [ordered, List.mem_insertionSort]

theorem hides_credential {form : Text} (spelling : Spelling form) :
    Hides Stop credential form := by
  intro before text hit found
  unfold credential at found
  split at found
  · exact absurd found nofun
  · split at found
    · exact absurd found nofun
    · simp only at found
      split at found
      · exact absurd found nofun
      · cases found
        exact ⟨fenced_blank, spelling.blank⟩

/-- All spellings replaced, none of them occurs, whatever the text was. -/
theorem not_infix_redacting {spelled : List Text} (fine : ∀ form ∈ spelled, Spelling form)
    {form : Text} (hf : form ∈ spelled) (text : Text) :
    ¬ form <:+: rewrite credential
      (spelled.foldl (fun output form => replaceAll form redacted output) text) := by
  intro occurs
  have spelling := fine form hf
  refine not_infix_foldl_replaceAll fenced_redacted spelled text ?_ form spelling.openly
    spelling.hidden (Or.inl hf)
    (infix_rewrite spelling.openly (hides_credential spelling) occurs)
  intro other ho
  exact ⟨(fine other ho).nonempty, (fine other ho).openly, (fine other ho).hidden⟩

theorem mapM_forms : ∀ {secrets : List Text}, (∀ secret ∈ secrets, Secret secret) →
    ∃ spelled, secrets.mapM forms = some spelled ∧
      (∀ form ∈ spelled.flatten, Spelling form) ∧
      ∀ secret ∈ secrets, secret ∈ spelled.flatten ∧ jsonForm secret ∈ spelled.flatten ∧
        ∀ form, encodeURIComponent secret = some form → form ∈ spelled.flatten := by
  intro secrets
  induction secrets with
  | nil => exact fun _ => ⟨[], rfl, by simp, by simp⟩
  | cons secret secrets ih =>
    intro fine
    obtain ⟨own, hown, spelling, raw, escaped, encoded⟩ :=
      (fine secret List.mem_cons_self).forms_eq
    obtain ⟨others, hothers, spellings, listed⟩ :=
      ih (fun s hs => fine s (List.mem_cons_of_mem _ hs))
    refine ⟨own :: others, by simp [List.mapM_cons, hown, hothers], ?_, ?_⟩
    · intro form hf
      rw [List.flatten_cons] at hf
      exact (List.mem_append.mp hf).elim (spelling form) (spellings form)
    · intro s hs
      rw [List.flatten_cons]
      rcases List.mem_cons.mp hs with rfl | hs
      · exact ⟨List.mem_append_left _ raw, List.mem_append_left _ escaped,
          fun form hf => List.mem_append_left _ (encoded form hf)⟩
      · obtain ⟨raw, escaped, encoded⟩ := listed s hs
        exact ⟨List.mem_append_right _ raw, List.mem_append_right _ escaped,
          fun form hf => List.mem_append_right _ (encoded form hf)⟩

/-- A cut leaves a part of the text. -/
theorem Conceals.take {secret output : Text} (h : Conceals secret output) (n : Nat) :
    Conceals secret (output.take n) where
  raw := fun occurs => h.raw (occurs.trans (List.take_prefix n output).isInfix)
  encoded := fun form hf occurs =>
    h.encoded form hf (occurs.trans (List.take_prefix n output).isInfix)
  escaped := fun occurs => h.escaped (occurs.trans (List.take_prefix n output).isInfix)

section Concealing

variable {secrets : List Text} (fine : ∀ secret ∈ secrets, Secret secret)

include fine

theorem redacts (text : Text) : ∃ output, redactDiagnosticText text secrets = some output ∧
    ∀ secret ∈ secrets, Conceals secret output := by
  have ordered_fine : ∀ secret ∈ ordered secrets, Secret secret :=
    fun s hs => fine s (mem_ordered.mp hs).1
  obtain ⟨spelled, hs, spelling, listed⟩ := mapM_forms ordered_fine
  refine ⟨_, by rw [redactDiagnosticText, hs]; rfl, ?_⟩
  intro secret member
  obtain ⟨raw, escaped, encoded⟩ :=
    listed secret (mem_ordered.mpr ⟨member, (fine secret member).raw.nonempty⟩)
  exact {
    raw := not_infix_redacting spelling raw text
    encoded := fun form hf => not_infix_redacting spelling (encoded form hf) text
    escaped := not_infix_redacting spelling escaped text }

variable {Number : Type} (numberText : Number → Text) (heap : Nat → Shape Number)

/-- Along the chain only the replacement itself may throw. -/
theorem describe_total : ∀ (left : Nat) (seen : List Thrown) (value : Thrown),
    ∃ described, describe numberText heap secrets left seen value = some described := by
  intro left
  induction left with
  | zero => exact fun seen value => ⟨_, rfl⟩
  | succ left ih =>
    intro seen value
    rw [describe]
    by_cases old : value ∈ seen
    · exact ⟨_, if_pos old⟩
    · simp only [if_neg old]
      cases value with
      | text s => exact ⟨_, rfl⟩
      | primitive key => exact ⟨_, rfl⟩
      | object ref =>
        cases shape : heap ref with
        | failedCreateCleanup suppressed error =>
          obtain ⟨first, hfirst⟩ := ih (.object ref :: seen) suppressed
          obtain ⟨second, hsecond⟩ := ih first.2 error
          refine ⟨(first.1 ++ ascii "; cleanup failed: " ++ second.1, second.2), ?_⟩
          simp only [shape, hfirst, hsecond, Option.bind_some, Option.map_some]
        | driverError error =>
          obtain ⟨output, houtput, _⟩ := redacts fine
            (List.intercalate (ascii "; ") (error.parts numberText))
          refine ⟨(output.take 8192, .object ref :: seen), ?_⟩
          simp only [shape, houtput, Option.map_some]
        | error message =>
          refine ⟨(message, .object ref :: seen), ?_⟩
          simp only [shape]
        | other =>
          refine ⟨(ascii "Unknown failure", .object ref :: seen), ?_⟩
          simp only [shape]

theorem describes (error : Thrown) :
    ∃ output, describeDriverFailure numberText heap error secrets = some output ∧
      ∀ secret ∈ secrets, Conceals secret output := by
  obtain ⟨described, hd⟩ := describe_total fine numberText heap 5 [] error
  obtain ⟨output, ho, conceals⟩ := redacts fine described.1
  refine ⟨output.take 16384, ?_, fun secret member => ?_⟩
  · rw [describeDriverFailure, hd, Option.bind_some, ho]
    rfl
  · exact (conceals secret member).take 16384

end Concealing

/-- Neither a text nor any error chain, cyclic ones included, brings a secret or one of
its spellings into a diagnostic. -/
theorem diagnostics_conceal {Number : Type} (numberText : Number → Text)
    (secrets : List Text) (fine : ∀ secret ∈ secrets, Secret secret) :
    (∀ text, ∃ output, redactDiagnosticText text secrets = some output ∧
      ∀ secret ∈ secrets, Conceals secret output) ∧
    ∀ (heap : Nat → Shape Number) (error : Thrown),
      ∃ output, describeDriverFailure numberText heap error secrets = some output ∧
        ∀ secret ∈ secrets, Conceals secret output :=
  ⟨redacts fine, describes fine numberText⟩

/-- One secret begins another, a third holds a percent sign and a quote. -/
def sampleSecrets : List Text := [ascii "key/1", ascii "key/1+2", ascii "a%\\"]

theorem sampleSecrets_fine : ∀ secret ∈ sampleSecrets, Secret secret := by
  have checked : ∀ secret ∈ sampleSecrets, isWellFormed secret = true ∧
      secret.all (fun c => decide (space c = false ∧ c ∉ ascii "<>")) = true ∧
      ¬ secret <:+: ascii "REDACTED" := by decide +kernel
  exact fun secret h =>
    ⟨(checked secret h).1, forall_of_all (checked secret h).2.1, (checked secret h).2.2⟩

theorem diagnostics_conceal_sample :
    (∀ secret ∈ sampleSecrets, Secret secret) ∧
    ∃ output, redactDiagnosticText (ascii "Bearer key/1+2 key%2F1") sampleSecrets
        = some output ∧ ∀ secret ∈ sampleSecrets, Conceals secret output :=
  ⟨sampleSecrets_fine,
    (diagnostics_conceal (fun _ : Nat => ascii "7") sampleSecrets sampleSecrets_fine).1
      (ascii "Bearer key/1+2 key%2F1")⟩

end Diagnostics
