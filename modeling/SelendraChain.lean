import SelendraChain.ApprovalVoting.Subsystem
import SelendraChain.ApprovalVoting.SessionCache
import SelendraChain.ApprovalVoting.SessionWindow
import SelendraChain.ApprovalVoting.DetermineNewBlocks
import SelendraChain.ApprovalVoting.ChainWalk
import SelendraChain.ApprovalVoting.Import
import SelendraChain.ApprovalVoting.HandleNewHead
import SelendraChain.ApprovalVoting.Announcements
import SelendraChain.ApprovalVoting.Heads
import SelendraChain.CandidateValidation.Subsystem
import SelendraChain.CandidateValidation.FromChainState
import SelendraChain.CandidateValidation.Run
import SelendraChain.Dmp.Storage
import SelendraChain.Dmp.OutgoingParas
import SelendraChain.Dmp.MessageQueueChain
import SelendraChain.Dmp.ProcessedMessages
import SelendraChain.Runtime.Precompiles
