import RubyBindings.Library.Loading
import RubyBindings.Output.Sink
import RubyBindings.Pipeline.Recorder
import RubyBindings.Proofs.BindingTree.SingleUnit
import RubyBindings.Proofs.Pipeline.DefinedNames
import RubyBindings.Proofs.Library.Representation
import RubyBindings.Proofs.Library.TypeNames
import RubyBindings.Proofs.Library.NameChecks
import RubyBindings.Proofs.Pipeline.Concealment
import RubyBindings.Proofs.Pipeline.RubyNames
import RubyBindings.Proofs.BindingTree.BuildRun
import RubyBindings.Proofs.BindingTree.Contributions
import RubyBindings.Proofs.BindingTree.Headers
import RubyBindings.Proofs.BindingTree.Warnings
import RubyBindings.Proofs.BindingTree.SortFault
import RubyBindings.Proofs.Hierarchy.SuperclassChain
import RubyBindings.Proofs.Pipeline.Cycles
import RubyBindings.Proofs.Library.AppendOnly
import RubyBindings.Proofs.Pipeline.RubyConstants
import RubyBindings.Proofs.BindingTree.SortedSubtree
import RubyBindings.Proofs.Library.InheritanceDepth
import RubyBindings.Proofs.Registration.OverloadNumbers
import RubyBindings.Proofs.Hierarchy.Placement
import RubyBindings.Proofs.BindingTree.BuildOutcome
import RubyBindings.Proofs.BindingTree.RootBuild
import RubyBindings.Proofs.BindingTree.SortConfluence
import RubyBindings.Proofs.BindingTree.StackWalk
import RubyBindings.Proofs.Source.Depth
import RubyBindings.Proofs.Library.NameSpan
import RubyBindings.Proofs.Output.Folder
import RubyBindings.Proofs.Library.FirstRefusal
import RubyBindings.Proofs.Naming.CaseStyle
import RubyBindings.Proofs.Output.InitializerName
