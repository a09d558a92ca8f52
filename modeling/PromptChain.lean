import PromptChain.Main
import PromptChain.Proofs.Accounts
import PromptChain.Proofs.Directions
import PromptChain.Proofs.Dispatch
import PromptChain.Proofs.Insertions
import PromptChain.Proofs.LoadErrors
import PromptChain.Proofs.Locations
import PromptChain.Proofs.Reentry
import PromptChain.Proofs.References
import PromptChain.Proofs.Reindenting
import PromptChain.Proofs.Resumed
import PromptChain.Proofs.Retries
import PromptChain.Proofs.Spelled
import PromptChain.Proofs.Spelling
import PromptChain.Proofs.Templates
import PromptChain.Proofs.TextsKept
