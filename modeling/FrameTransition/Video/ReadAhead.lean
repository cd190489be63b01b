import FrameTransition.Video.Channel
import FrameTransition.Video.Decoder

/-!
# Reading ahead

A decoder reads frames ahead of its caller. A reader of its own takes frame after frame out of the
program's output and sends them through a bounded channel; when too little is left for a frame it leaves
its loop, waits for the program to end, reports a bad end and goes. A reader that finds no buffer for a frame
goes at once, and reports nothing. The caller asks for frames one by
one, or drops the decoder. `Step` is one action of one of the two, and any action that is possible may
be the next: what waits has no step.

A reader whose frame is refused stops the program and leaves its loop. How a stopped program ends is left
open, since it may have ended by itself before that.
-/

namespace FrameTransition.Video

/-- What a reader sends: the bytes of a frame, or its report. -/
abbrev Item := Except VideoError (List UInt8)

/-- What a caller gets: a frame, the end of the stream, or the report. -/
abbrev Answer := Except VideoError (Option Frame)

namespace Item

/-- The answer an item becomes, at the index of the next frame. -/
def answer (info : Info) (index : Nat) (item : Item) : Answer :=
  item.map fun data => some (info.frame index data)

/-- The index after an item: a report takes up none. -/
def indexAfter (index : Nat) : Item → Nat
  | .ok _ => index + 1
  | .error _ => index

end Item

/-- Where a reader is. -/
inductive Reader where
  /-- About to read a frame. -/
  | reading
  /-- A frame was read and is to be sent. -/
  | sending (data : List UInt8)
  /-- Out of its loop, waiting for the program to end. -/
  | waiting
  /-- The program ended badly, and that is to be sent. -/
  | reporting
  | gone
  deriving DecidableEq

/-- The reader is in its loop. -/
def Reader.isInLoop : Reader → Bool
  | reading | sending _ => true
  | waiting | reporting | gone => false

/-- The reader, the channel and the caller at one moment. -/
structure ReadAhead where
  info : Info
  /-- What the reader has not read. -/
  output : Pieces
  /-- How the program ends, until that was reported. -/
  exit : Exit
  reader : Reader
  channel : Channel Item
  /-- The index of the next frame the caller gets. -/
  index : Nat
  /-- What the caller got, in order. -/
  answers : List Answer

namespace ReadAhead

/-- How many items wait in the channel at most. -/
def capacity : Nat := 5

/-- A decoder was opened, and nobody has done anything. -/
def start (decoder : Decoder) : ReadAhead :=
  ⟨decoder.info, decoder.output, decoder.exit, .reading, .new, decoder.index, []⟩

/-- The bytes of a frame. -/
def frameLength (s : ReadAhead) : Nat :=
  Frame.wordLength s.info.width s.info.height

/-- One action of the reader or of the caller. -/
inductive Step : ReadAhead → ReadAhead → Prop where
  | read {s : ReadAhead} {data : List UInt8} {rest : Pieces} (hreader : s.reader = .reading)
      (hbuffer : s.frameLength ≤ Pixels.largestBuffer)
      (htaken : s.output.take? s.frameLength = some (data, rest)) :
      Step s { s with reader := .sending data, output := rest }
  /-- Too little is left for a frame. -/
  | runOut {s : ReadAhead} (hreader : s.reader = .reading)
      (hbuffer : s.frameLength ≤ Pixels.largestBuffer)
      (htaken : s.output.take? s.frameLength = none) : Step s { s with reader := .waiting }
  /-- No buffer can hold a frame. -/
  | giveUp {s : ReadAhead} (hreader : s.reader = .reading) (hbuffer : Pixels.largestBuffer < s.frameLength) :
      Step s { s with reader := .gone, channel := s.channel.finish }
  | send {s : ReadAhead} {data : List UInt8} {channel : Channel Item}
      (hreader : s.reader = .sending data)
      (hsent : s.channel.send capacity (.ok data) = .accepted channel) :
      Step s { s with reader := .reading, channel }
  /-- The caller is gone. The program is stopped, which may change how it ends. -/
  | turnAway {s : ReadAhead} {data : List UInt8} {exit : Exit} (hreader : s.reader = .sending data)
      (hsent : s.channel.send capacity (.ok data) = .refused) :
      Step s { s with reader := .waiting, exit }
  /-- The program ended well, and there is nothing to report. -/
  | finish {s : ReadAhead} (hreader : s.reader = .waiting) (hexit : s.exit.isSuccess = true) :
      Step s { s with reader := .gone, channel := s.channel.finish }
  | complain {s : ReadAhead} (hreader : s.reader = .waiting) (hexit : s.exit.isSuccess = false) :
      Step s { s with reader := .reporting }
  | report {s : ReadAhead} {channel : Channel Item} (hreader : s.reader = .reporting)
      (hsent : s.channel.send capacity (.error (.decoderEnded s.exit)) = .accepted channel) :
      Step s { s with reader := .gone, exit := .success, channel := channel.finish }
  /-- There is nobody to report to. -/
  | keepQuiet {s : ReadAhead} (hreader : s.reader = .reporting)
      (hsent : s.channel.send capacity (.error (.decoderEnded s.exit)) = .refused) :
      Step s { s with reader := .gone, channel := s.channel.finish }
  /-- The caller asks and gets what was sent first. -/
  | receive {s : ReadAhead} {item : Item} {channel : Channel Item}
      (hcaller : s.channel.abandoned = false) (hreceived : s.channel.receive = .received item channel) :
      Step s { s with
        channel
        index := item.indexAfter s.index
        answers := s.answers ++ [item.answer s.info s.index] }
  /-- The caller asks and is told that there is nothing more. -/
  | receiveEnd {s : ReadAhead} (hcaller : s.channel.abandoned = false)
      (hreceived : s.channel.receive = .over) : Step s { s with answers := s.answers ++ [.ok none] }
  /-- The caller drops the decoder. -/
  | drop {s : ReadAhead} (hcaller : s.channel.abandoned = false) :
      Step s { s with channel := s.channel.abandon }

/-- What can be reached by actions in any order. -/
inductive Steps : ReadAhead → ReadAhead → Prop where
  | refl (s : ReadAhead) : Steps s s
  | tail {s t u : ReadAhead} : Steps s t → Step t u → Steps s u

end ReadAhead

end FrameTransition.Video
