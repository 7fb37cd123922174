import Mathlib.Data.List.Basic

/-!
# Questions and late answers

A party asks questions over a channel and reads the answers one by one.  Answers come
late, in any order, in parts, or not at all, and do not say which question they are for:
that is known of them here, but not to the party.
-/

namespace OneDesk
namespace Lib

/-- The questions that are not answered yet, and the parts of answers that are not read
yet, each with its question. -/
structure Mailbox (Question Answer : Type*) where
  asked : List Question
  arrived : List (Question × Answer)

namespace Mailbox

variable {Question Answer : Type*} (mailbox : Mailbox Question Answer)

/-- Nothing has been asked. -/
def empty : Mailbox Question Answer := ⟨[], []⟩

/-- A question is asked. -/
def ask (question : Question) : Mailbox Question Answer :=
  { mailbox with asked := mailbox.asked ++ [question] }

/-- A question is answered, in any number of parts; with none, the answer is lost. -/
def reply (index : Nat) (answers : Question → List Answer) : Mailbox Question Answer :=
  match mailbox.asked[index]? with
  | none => mailbox
  | some question =>
      { asked := mailbox.asked.eraseIdx index
        arrived := mailbox.arrived ++
          (answers question).map fun answer => (question, answer) }

/-- The oldest part of an answer is read. -/
def read : Mailbox Question Answer :=
  { mailbox with arrived := mailbox.arrived.tail }

/-- Every question that is not answered, or whose answer is not read, has a property. -/
structure All (property : Question → Prop) : Prop where
  asked : ∀ question ∈ mailbox.asked, property question
  arrived : ∀ part ∈ mailbox.arrived, property part.1

/-- Every part of an answer that is not read fits its question. -/
def Fits (fits : Question → Answer → Prop) : Prop :=
  ∀ part ∈ mailbox.arrived, fits part.1 part.2

variable {mailbox} {property : Question → Prop} {fits : Question → Answer → Prop}

theorem all_empty (property : Question → Prop) :
    (empty : Mailbox Question Answer).All property where
  asked := fun _ member => absurd member List.not_mem_nil
  arrived := fun _ member => absurd member List.not_mem_nil

theorem All.mono
    {weaker : Question → Prop}
    (all : mailbox.All property)
    (implies : ∀ question, property question → weaker question) :
    mailbox.All weaker where
  asked := fun question member => implies question (all.asked question member)
  arrived := fun part member => implies part.1 (all.arrived part member)

theorem All.ask
    (all : mailbox.All property)
    {question : Question}
    (holds : property question) :
    (mailbox.ask question).All property where
  asked := by
    intro other member
    rcases List.mem_append.mp member with old | new
    · exact all.asked other old
    · rw [List.mem_singleton.mp new]
      exact holds
  arrived := all.arrived

theorem All.reply
    (all : mailbox.All property)
    (index : Nat)
    (answers : Question → List Answer) :
    (mailbox.reply index answers).All property := by
  unfold Mailbox.reply
  split
  · exact all
  · next question isAsked =>
      refine ⟨fun other member => all.asked other (List.mem_of_mem_eraseIdx member), ?_⟩
      intro part member
      rcases List.mem_append.mp member with old | new
      · exact all.arrived part old
      · obtain ⟨answer, _, rfl⟩ := List.mem_map.mp new
        exact all.asked question (List.mem_of_getElem? isAsked)

theorem All.read (all : mailbox.All property) : mailbox.read.All property where
  asked := all.asked
  arrived := fun part member => all.arrived part (List.mem_of_mem_tail member)

theorem fits_empty (fits : Question → Answer → Prop) :
    (empty : Mailbox Question Answer).Fits fits :=
  fun _ member => absurd member List.not_mem_nil

theorem Fits.ask
    (allFit : mailbox.Fits fits)
    (question : Question) :
    (mailbox.ask question).Fits fits :=
  allFit

theorem Fits.reply
    (allFit : mailbox.Fits fits)
    (index : Nat)
    {answers : Question → List Answer}
    (answersFit : ∀ question ∈ mailbox.asked, ∀ answer ∈ answers question,
      fits question answer) :
    (mailbox.reply index answers).Fits fits := by
  unfold Mailbox.reply
  split
  · exact allFit
  · next question isAsked =>
      intro part member
      rcases List.mem_append.mp member with old | new
      · exact allFit part old
      · obtain ⟨answer, isAnswer, rfl⟩ := List.mem_map.mp new
        exact answersFit question (List.mem_of_getElem? isAsked) answer isAnswer

theorem Fits.read (allFit : mailbox.Fits fits) : mailbox.read.Fits fits :=
  fun part member => allFit part (List.mem_of_mem_tail member)

end Mailbox

end Lib
end OneDesk
