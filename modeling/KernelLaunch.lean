import KernelLaunch.Lowering.Run
import KernelLaunch.Proofs.Descriptor.Grid
import KernelLaunch.Proofs.Lowering.Aliases
import KernelLaunch.Proofs.Lowering.Configuration
import KernelLaunch.Proofs.Lowering.Consistency
import KernelLaunch.Proofs.Lowering.Content
import KernelLaunch.Proofs.Lowering.Debugging
import KernelLaunch.Proofs.Lowering.Parameters
import KernelLaunch.Proofs.Lowering.Sequence
import KernelLaunch.Proofs.Lowering.Unread
import KernelLaunch.Proofs.Param.Refinement
import KernelLaunch.Proofs.Param.Refusal
import KernelLaunch.Proofs.Param.Repetition
import KernelLaunch.Proofs.Param.Splitting
import KernelLaunch.Proofs.Platform.Resolution
import KernelLaunch.Proofs.Tensor.Address
import KernelLaunch.Proofs.Tensor.Text
