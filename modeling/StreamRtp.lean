import StreamRtp.Scripted.Session
import StreamRtp.Socket.Session
import StreamRtp.Abort.Threads
import StreamRtp.Engine.Threads
import StreamRtp.Main
import StreamRtp.Proofs.Chunks
import StreamRtp.Proofs.Roster
import StreamRtp.Proofs.AbortRace
import StreamRtp.Proofs.Reassembly
import StreamRtp.Proofs.StreamGrammar
import StreamRtp.Proofs.Ledger
import StreamRtp.Proofs.Episodes
import StreamRtp.Proofs.EndToEnd
import StreamRtp.Proofs.Outline
import StreamRtp.Proofs.Projection
import StreamRtp.Proofs.Isolation
import StreamRtp.Proofs.ExclusiveWait
import StreamRtp.Proofs.SafeDestruction
import StreamRtp.Proofs.Lookalikes
import StreamRtp.Proofs.Renewal
import StreamRtp.Proofs.RegistrationOrder
import StreamRtp.Proofs.StreamUses
import StreamRtp.Proofs.WalkMoments
import StreamRtp.Proofs.Endings
import StreamRtp.Proofs.Coalescing
import StreamRtp.Proofs.WaitEnds
import StreamRtp.Proofs.EngineParts
import StreamRtp.Proofs.Refusals
import StreamRtp.Proofs.AbortedWaits
import StreamRtp.Proofs.LimitsInForce
import StreamRtp.Proofs.Errands
import StreamRtp.Proofs.WireImage
import StreamRtp.Proofs.ReceiveLoop
import StreamRtp.Proofs.RefusedLengths
import StreamRtp.Proofs.SendTour
import StreamRtp.Proofs.SoleConnection
import StreamRtp.Proofs.EchoServer
import StreamRtp.Proofs.EchoRoundTrip
import StreamRtp.Proofs.ClockTicks
import StreamRtp.Proofs.SourceRuns
import StreamRtp.Proofs.FilterHistory
import StreamRtp.Proofs.FullScans
import StreamRtp.Proofs.BufferBounds
import StreamRtp.Proofs.SlotReuse
import StreamRtp.Proofs.TimeoutRounding
